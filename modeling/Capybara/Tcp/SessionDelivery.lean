import Capybara.Tcp.Session

/-!
# What a session delivers

From the first SYN on, over any network: both ends are opened with the same pair of initial
numbers, and what one application reads is what the other has written, from the beginning, in
order and without a gap.

Until an application has its connection, the connection stands for itself as if it were new:
what arrives for it is dropped, which the network might have done as well. So the invariant
of the handshake says which segments belong to it, and `Delivering` holds of both ends from the
moment the server has taken the SYN.
-/

namespace Capybara

open Tables Conversation

variable {κ ρ : Type} [CongestionControl κ] [RtoCalculator ρ]

/-! ## The two control blocks -/

namespace Setup

omit [CongestionControl κ] [RtoCalculator ρ] in
/-- A shift that returns returns its value. -/
theorem shifted_eq {result : Capybara.Checked UInt32} {value : UInt32} (shifts : result = .ok value) :
    shifted result = value := by
  rw [shifts]
  rfl

/-- The control block of the server. -/
theorem opened_server {setup : Setup} {passive : PassiveSocket κ ρ} {serverIsn : SeqNumber}
    {cb : ControlBlock κ ρ} (localAddr : passive.localAddr = setup.serverAddr)
    (tcpConfig : passive.tcpConfig = setup.serverTcp)
    (localLinkAddr : passive.localLinkAddr = setup.serverLinkAddr)
    (opened : passive.opened setup.clientAddr (Listener.entry serverIsn setup.syn) = .ok cb) :
    cb = .new (setup.args serverIsn .server) := by
  obtain ⟨senderWindowSize, sender, opened⟩ := bind_ok.mp opened
  obtain ⟨receiverWindowSize, receiver, opened⟩ := bind_ok.mp opened
  cases opened
  rw [tcpConfig] at sender receiver ⊢
  have sends := shifted_eq sender
  have receives := shifted_eq receiver
  rw [localAddr, localLinkAddr, ← sends, ← receives]
  rfl

/-- The control block of the client. -/
theorem opened_client {setup : Setup} {socket : ActiveOpenSocket κ ρ} {serverIsn : SeqNumber}
    {cb : ControlBlock κ ρ} (localIsn : socket.localIsn = setup.clientIsn)
    (localAddr : socket.localAddr = setup.clientAddr) (remote : socket.remote = setup.serverAddr)
    (tcpConfig : socket.tcpConfig = setup.clientTcp)
    (localLinkAddr : socket.localLinkAddr = setup.clientLinkAddr)
    (opened : socket.opened (setup.synAck serverIsn) = .ok cb) :
    cb = .new (setup.args serverIsn .client) := by
  unfold ActiveOpenSocket.opened at opened
  dsimp only at opened
  split at opened
  · cases opened
  obtain ⟨receiverWindowSize, receiver, opened⟩ := bind_ok.mp opened
  obtain ⟨senderWindowSize, sender, opened⟩ := bind_ok.mp opened
  cases opened
  rw [tcpConfig] at sender receiver ⊢
  have sends := shifted_eq sender
  have receives := shifted_eq receiver
  rw [localIsn, localAddr, remote, localLinkAddr, ← sends, ← receives]
  rfl

omit [CongestionControl κ] [RtoCalculator ρ] in
/-- A 16-bit window loses no more by its shift than the same window shifted as a 32-bit value. -/
theorem shifted_le (window : UInt16) {shift : Nat} (few : shift ≤ 14) :
    (shifted (checkedShlU16 window shift)).toNat ≤
        (shifted (checkedShlU32 window.toNat shift)).toNat ∧
      (shifted (checkedShlU16 window shift)).toNat < 2 ^ 31 ∧
      (shifted (checkedShlU32 window.toNat shift)).toNat < 2 ^ 31 := by
  have bound : window.toNat <<< shift < 2 ^ 31 := by
    rw [Nat.shiftLeft_eq]
    calc window.toNat * 2 ^ shift
      _ ≤ window.toNat * 2 ^ 14 := Nat.mul_le_mul_left _ (Nat.pow_le_pow_right (by decide) few)
      _ < 2 ^ 31 := by
        have size := window.toNat_lt
        omega
  have narrow : shifted (checkedShlU16 window shift) =
      UInt32.ofNat ((window.toNat <<< shift) % 2 ^ 16) := shifted_eq (if_pos (by omega))
  have wide : shifted (checkedShlU32 window.toNat shift) =
      UInt32.ofNat ((window.toNat <<< shift) % 2 ^ 32) := shifted_eq (if_pos (by omega))
  rw [narrow, wide, UInt32.toNat_ofNat', UInt32.toNat_ofNat']
  generalize window.toNat <<< shift = product at bound
  omega

omit [CongestionControl κ] [RtoCalculator ρ] in
/-- The two control blocks continue each other, and neither end may send more than the other
has room for. -/
theorem args_mirrored {setup : Setup} (valid : setup.Valid) (serverIsn : SeqNumber) :
    Mirrored (setup.args serverIsn) ∧ ∀ side,
      (setup.args serverIsn side).senderWindowSize.toNat ≤
        (setup.args serverIsn side.other).receiverWindowSize.toNat := by
  have scale : setup.serverTcp.windowScale.toNat ≤ 14 := UInt8.le_iff_toNat_le.mp valid.serverScale
  obtain ⟨below, small, small'⟩ := shifted_le setup.serverTcp.receiveWindowSize scale
  have mss (config : HandshakeConfig) (sized : FALLBACK_MSS ≤ config.advertisedMss ∧
      config.advertisedMss < 2 ^ 16) : 1 ≤ (UInt16.ofNat config.advertisedMss).toNat := by
    rw [UInt16.toNat_ofNat_of_lt' sized.2]
    exact Nat.le_trans (by decide) sized.1
  have narrow : (shifted (checkedShlU16 setup.clientTcp.receiveWindowSize
      setup.clientTcp.windowScale.toUInt32.toNat)).toNat < 2 ^ 31 := by
    unfold checkedShlU16
    split
    · rw [shifted_eq rfl, UInt32.toNat_ofNat']
      omega
    · decide
  refine ⟨⟨?_, ?_, ?_⟩, ?_⟩ <;> intro side <;> cases side
  · rfl
  · rfl
  · exact mss _ valid.serverMss
  · exact mss _ valid.clientMss
  · exact narrow
  · exact small'
  · exact below
  · exact Nat.le_refl _

end Setup

/-! ## The two ends -/

namespace Session

/-- A SYN of the client. -/
structure IsSyn (setup : Setup) (segment : TcpSegment) : Prop where
  header : segment.tcpHdr = setup.syn
  source : segment.srcAddr = setup.clientAddr.ip
  empty : segment.data = none

/-- The connecting socket of the client. -/
structure Configured (setup : Setup) (opening : Opening κ ρ) : Prop where
  localIsn : opening.socket.localIsn = setup.clientIsn
  localAddr : opening.socket.localAddr = setup.clientAddr
  remote : opening.socket.remote = setup.serverAddr
  tcpConfig : opening.socket.tcpConfig = setup.clientTcp
  localLinkAddr : opening.socket.localLinkAddr = setup.clientLinkAddr
  config : opening.config = setup.clientConfig

/-- The listening socket of the server. -/
structure Listens (setup : Setup) (listener : Listener κ ρ) : Prop where
  localAddr : listener.passive.localAddr = setup.serverAddr
  tcpConfig : listener.passive.tcpConfig = setup.serverTcp
  localLinkAddr : listener.passive.localLinkAddr = setup.serverLinkAddr
  config : listener.config = setup.serverConfig

/-- A connecting socket whose result, if it is a control block, is the expected one. -/
def Expects (setup : Setup) (property : ControlBlock κ ρ → Prop) (client : ClientEnd κ ρ) : Prop :=
  ∀ opening, client = .connecting opening →
    Configured setup opening ∧ ∀ cb, opening.socket.result = some (.ok cb) → property cb

/-- A segment that a listening socket has sent to the client. -/
def IsSynAck (setup : Setup) (serverIsn : SeqNumber) (segment : TcpSegment) : Prop :=
  segment.tcpHdr = setup.synAck serverIsn ∧ segment.data = none

/-- Where the server is with the client, once it has taken its SYN. -/
inductive Serves (setup : Setup) (serverIsn : SeqNumber) (record : Listener.Record κ ρ) :
    Option (Endpoint κ ρ) → Prop where
  | waiting (entry : record.entry = some (Listener.entry serverIsn setup.syn))
      (task : ∀ task, record.task = some task →
        task.localIsn = serverIsn ∧ task.remoteIsn = setup.clientIsn)
      (queued : record.queued = []) : Serves setup serverIsn record none
  | queued (entry : record.entry = none) (task : record.task = none)
      (queued : record.queued = [.new (setup.args serverIsn .server)]) (listed : record.listed = true) :
      Serves setup serverIsn record none
  | accepted {endpoint : Endpoint κ ρ} (entry : record.entry = none) (task : record.task = none)
      (queued : record.queued = [])
      (noSyn : ∀ segment ∈ endpoint.earlier, segment.tcpHdr.syn = false) :
      Serves setup serverIsn record (some endpoint)

/-- The client as an end of a connection. As long as its application does not have the
connection, the connection is new. -/
def clientEndpoint (setup : Setup) (serverIsn : SeqNumber) : ClientEnd κ ρ → Endpoint κ ρ
  | .connected endpoint => endpoint
  | .connecting opening => ⟨.new (setup.args serverIsn .client), opening.transmitted⟩
  | .failed transmitted => ⟨.new (setup.args serverIsn .client), transmitted⟩

/-- The server as an end of a connection, for which the listening socket has sent something
before. -/
def serverEndpoint (setup : Setup) (serverIsn : SeqNumber) (sent : List TcpSegment) :
    Option (Endpoint κ ρ) → Endpoint κ ρ
  | some endpoint => ⟨endpoint.connection, sent ++ endpoint.earlier⟩
  | none => ⟨.new (setup.args serverIsn .server), sent⟩

/-- The two ends as those of a connection. -/
def ends (setup : Setup) (serverIsn : SeqNumber) (session : Session κ ρ) : Conversation κ ρ
  | .client => clientEndpoint setup serverIsn session.client
  | .server => serverEndpoint setup serverIsn
      (session.listener.record setup.clientAddr).sent session.accepted

/-- The numbers behind the two SYNs. -/
def iss (setup : Setup) (serverIsn : SeqNumber) (side : Side) : SeqNumber :=
  (setup.args serverIsn side).senderSeqNo

/-- An end gets its connection in this step. -/
def Opens (transition : Transition κ ρ) (side : Side) (endpoint : Endpoint κ ρ) : Prop :=
  transition.source.endpoint side = none ∧ transition.target.endpoint side = some endpoint

/-- The server has not taken a SYN of the client. -/
structure Unheard (setup : Setup) (profile : Profile) (past : List (Transition κ ρ))
    (session : Session κ ρ) : Prop where
  listens : Listens setup session.listener
  entry : (session.listener.record setup.clientAddr).entry = none
  task : (session.listener.record setup.clientAddr).task = none
  queued : (session.listener.record setup.clientAddr).queued = []
  silent : (session.listener.record setup.clientAddr).sent = []
  accepted : session.accepted = none
  client : Expects setup (fun _ => False) session.client
  unconnected : session.endpoint .client = none
  syns : ∀ segment ∈ session.client.sent, IsSyn setup segment
  written : ∀ side, written profile side past = []
  read : ∀ side, read side past = []
  opens : ∀ transition ∈ past, ∀ side endpoint, ¬ Opens transition side endpoint

/-- The server has taken a SYN of the client and answers with its own number. -/
structure Heard (setup : Setup) (profile : Profile) (serverIsn : SeqNumber)
    (past : List (Transition κ ρ)) (session : Session κ ρ) : Prop where
  listens : Listens setup session.listener
  serves : Serves setup serverIsn (session.listener.record setup.clientAddr) session.accepted
  synAcks : ∀ segment ∈ (session.listener.record setup.clientAddr).sent,
    IsSynAck setup serverIsn segment
  client : Expects setup (fun cb => cb = .new (setup.args serverIsn .client)) session.client
  delivering : Delivering (iss setup serverIsn) (fun side => written profile side past)
    (fun side => read side past) (session.ends setup serverIsn)
  opens : ∀ transition ∈ past, ∀ side endpoint, Opens transition side endpoint →
    endpoint.connection = .new (setup.args serverIsn side)

/-! ## Steps -/

section Steps

variable {setup : Setup} {profile : Profile} {serverIsn : SeqNumber}
  {past : List (Transition κ ρ)} {source target : Session κ ρ} {action : SessionAction}

/-- Nothing is written or read in the step. -/
def Still (profile : Profile) (transition : Transition κ ρ) : Prop :=
  ∀ side, writes profile side transition = [] ∧ reads side transition = []

/-- Only what an end does by itself writes or reads, -/
theorem Still.of_none (none : SessionAction.actor action = none) :
    Still profile ⟨source, action, target⟩ := by
  intro side
  simp only [writes, reads, none, and_self]

/-- and only once its application has the connection. -/
theorem Still.of_waiting {side : Side} {own : OwnAction}
    (actor : SessionAction.actor action = some (side, own)) (waits : source.endpoint side = none) :
    Still profile ⟨source, action, target⟩ := by
  intro side'
  simp only [writes, reads, actor]
  by_cases same : side = side'
  · subst same
    simp only [waits, and_self]
  · cases source.endpoint side' <;> cases target.endpoint side' <;>
      simp only [if_neg same, and_self]

/-- Where nothing was written, as much has been written as before. -/
theorem written_still (still : Still profile ⟨source, action, target⟩) (side : Side) :
    written profile side (⟨source, action, target⟩ :: past) = written profile side past := by
  rw [written, (still side).1, List.append_nil]

/-- Where nothing was read, as much has been read as before. -/
theorem read_still (still : Still profile ⟨source, action, target⟩) (side : Side) :
    read side (⟨source, action, target⟩ :: past) = read side past := by
  rw [read, (still side).2, List.append_nil]

/-- The client has sent what its end has sent. -/
theorem clientEndpoint_sent (client : ClientEnd κ ρ) :
    (clientEndpoint setup serverIsn client).sent = client.sent := by
  cases client with
  | connected endpoint => rfl
  | connecting | failed => exact List.append_nil _

/-- The server has sent what the listening socket and the accepted connection have. -/
theorem serverEndpoint_sent (sent : List TcpSegment) (accepted : Option (Endpoint κ ρ)) :
    (serverEndpoint setup serverIsn sent accepted).sent =
      sent ++ (accepted.map Endpoint.sent).getD [] := by
  cases accepted with
  | some endpoint => exact List.append_assoc _ _ _
  | none => rfl

/-- What the client becomes changes its end only. -/
theorem ends_client (client : ClientEnd κ ρ) :
    ({ source with client } : Session κ ρ).ends setup serverIsn =
      Function.update (source.ends setup serverIsn) .client
        (clientEndpoint setup serverIsn client) := by
  funext side
  cases side with
  | client => rw [Function.update_self]; rfl
  | server => rw [Function.update_of_ne (by decide)]; rfl

/-- What the server becomes changes its end only. -/
theorem ends_server (listener : Listener κ ρ) (accepted : Option (Endpoint κ ρ)) :
    ({ source with listener, accepted } : Session κ ρ).ends setup serverIsn =
      Function.update (source.ends setup serverIsn) .server
        (serverEndpoint setup serverIsn (listener.record setup.clientAddr).sent accepted) := by
  funext side
  cases side with
  | client => rw [Function.update_of_ne (by decide)]; rfl
  | server => rw [Function.update_self]; rfl

omit [CongestionControl κ] [RtoCalculator ρ] in
/-- The coroutine of the client sends SYNs, and reports no control block. -/
theorem Configured.background {opening : Opening κ ρ} (configured : Configured setup opening)
    (now : Instant) (arp : Option (Except Fail MacAddress)) :
    Configured setup (opening.background now arp) ∧
    (∀ cb, (opening.background now arp).socket.result = some (.ok cb) →
      opening.socket.result = some (.ok cb)) ∧
    ∃ more, (opening.background now arp).transmitted = opening.transmitted ++ more ∧
      ∀ segment ∈ more, IsSyn setup segment := by
  obtain ⟨localIsn, localAddr, remote, tcpConfig, localLinkAddr, config⟩ := configured
  obtain ⟨progress, after⟩ | ⟨progress, remoteLinkAddr, after⟩ | after :=
    opening.background_cases now arp
  all_goals
    rw [after]
    refine ⟨⟨localIsn, localAddr, remote, tcpConfig, localLinkAddr, config⟩, ?_, ?_⟩
  · exact fun _ => id
  · exact ⟨[], (List.append_nil _).symm, by simp⟩
  · exact fun _ => id
  · refine ⟨_, rfl, fun segment member => ?_⟩
    rw [List.mem_singleton.mp member]
    refine ⟨?_, congrArg SocketAddrV4.ip localAddr, rfl⟩
    simp only [ActiveOpenSocket.syn, localIsn, localAddr, remote, tcpConfig, config, Setup.syn]
  · intro cb result
    cases result
  · exact ⟨[], (List.append_nil _).symm, by simp⟩

omit [CongestionControl κ] [RtoCalculator ρ] in
/-- A SYN of the client is of the handshake. -/
theorem IsSyn.stale {segment : TcpSegment} (syn : IsSyn setup segment) :
    Stale (iss setup serverIsn .client) segment := by
  obtain ⟨header, -, empty⟩ := syn
  exact ⟨by rw [header]; rfl, by rw [header]; rfl, empty, by rw [header]; rfl⟩

omit [CongestionControl κ] [RtoCalculator ρ] in
/-- A SYN+ACK carries nothing that an opened connection would take. -/
theorem IsSynAck.stale {segment : TcpSegment} (synAck : IsSynAck setup serverIsn segment) :
    Stale (iss setup serverIsn .server) segment := by
  obtain ⟨header, empty⟩ := synAck
  exact ⟨by rw [header]; rfl, by rw [header]; rfl, empty, by rw [header]; rfl⟩

/-- A step in which no end writes or reads. -/
theorem Heard.quiet (heard : Heard setup profile serverIsn past source)
    (still : Still profile ⟨source, action, target⟩) (listens : Listens setup target.listener)
    (serves : Serves setup serverIsn (target.listener.record setup.clientAddr) target.accepted)
    (synAcks : ∀ segment ∈ (target.listener.record setup.clientAddr).sent,
      IsSynAck setup serverIsn segment)
    (client : Expects setup (fun cb => cb = .new (setup.args serverIsn .client)) target.client)
    (delivering : Delivering (iss setup serverIsn) (fun side => written profile side past)
      (fun side => read side past) (target.ends setup serverIsn))
    (opens : ∀ side endpoint, Opens ⟨source, action, target⟩ side endpoint →
      endpoint.connection = .new (setup.args serverIsn side)) :
    Heard setup profile serverIsn (⟨source, action, target⟩ :: past) target := by
  refine ⟨listens, serves, synAcks, client, ?_, ?_⟩
  · simp only [written_still still, read_still still]
    exact delivering
  · intro transition member side endpoint opened
    obtain rfl | member := List.mem_cons.mp member
    · exact opens side endpoint opened
    · exact heard.opens transition member side endpoint opened

/-- The client goes on without a connection, and may have sent more of its handshake. -/
theorem Heard.client_goes_on (heard : Heard setup profile serverIsn past source)
    (still : Still profile ⟨source, action, target⟩) {client : ClientEnd κ ρ}
    (changed : target = { source with client })
    (expects : Expects setup (fun cb => cb = .new (setup.args serverIsn .client)) client)
    (waits : source.endpoint .client = none) (waits' : target.endpoint .client = none)
    (more : List TcpSegment) (sent : client.sent = source.client.sent ++ more)
    (each : ∀ segment ∈ more, Stale (iss setup serverIsn .client) segment ∨ segment.data = none ∧
      segment.tcpHdr.fin = false ∧ segment.tcpHdr.Continues (iss setup serverIsn .server)) :
    Heard setup profile serverIsn (⟨source, action, target⟩ :: past) target := by
  have unconnected (client : ClientEnd κ ρ) (alone : (⟨client, source.listener, source.accepted⟩ :
      Session κ ρ).endpoint .client = none) : clientEndpoint setup serverIsn client =
        ⟨.new (setup.args serverIsn .client), client.sent⟩ := by
    cases client with
    | connected endpoint => cases alone
    | connecting | failed => rfl
  subst changed
  refine heard.quiet still heard.listens heard.serves heard.synAcks expects ?_ ?_
  · have further := heard.delivering.handshakes .client each
    rw [ends_client, unconnected client waits', sent]
    rw [show source.ends setup serverIsn .client = clientEndpoint setup serverIsn source.client from rfl,
      unconnected source.client waits] at further
    exact further
  · rintro (_ | _) endpoint ⟨before, after⟩
    · cases waits'.symm.trans after
    · cases before.symm.trans after

/-- The coroutine of the client goes on. -/
theorem Heard.clientBackground (heard : Heard setup profile serverIsn past source) (now : Instant)
    (arp : Option (Except Fail MacAddress)) {opening : Opening κ ρ}
    (connecting : source.client = .connecting opening) :
    let target := { source with client := .connecting (opening.background now arp) }
    Heard setup profile serverIsn (⟨source, .clientBackground now arp, target⟩ :: past) target := by
  intro target
  obtain ⟨configured, result⟩ := heard.client opening connecting
  obtain ⟨configured', kept, more, sent, syns⟩ := configured.background now arp
  refine heard.client_goes_on (.of_none rfl) rfl ?_ ?_ rfl more ?_ fun segment member =>
    .inl (syns segment member).stale
  · rintro _ ⟨⟩
    exact ⟨configured', fun cb ready => result cb (kept cb ready)⟩
  · rw [endpoint, connecting]
  · rw [connecting]
    exact sent

/-- The application of the client asks for its connection. -/
theorem Heard.clientPolls (heard : Heard setup profile serverIsn past source) (waker : Waker)
    {opening : Opening κ ρ} (connecting : source.client = .connecting opening) :
    let target := { source with client := polls waker opening }
    Heard setup profile serverIsn (⟨source, .clientPolls waker, target⟩ :: past) target := by
  intro target
  obtain ⟨configured, result⟩ := heard.client opening connecting
  have alone : source.endpoint .client = none := by rw [endpoint, connecting]
  have noMore : source.client.sent = source.client.sent ++ [] := (List.append_nil _).symm
  rw [connecting] at noMore
  have target_eq : target = { source with client := polls waker opening } := rfl
  cases pending : opening.socket.result with
  | none =>
    have after : polls waker opening = .connecting { opening with
        socket := { opening.socket with waker := some waker } } := by
      simp only [polls, ActiveOpenSocket.pollResult, pending]
    rw [after] at target_eq
    refine heard.client_goes_on (.of_none rfl) target_eq ?_ alone (by rw [target_eq]; rfl) [] ?_ (by simp)
    · rintro _ ⟨⟩
      obtain ⟨localIsn, localAddr, remote, tcpConfig, localLinkAddr, config⟩ := configured
      exact ⟨⟨localIsn, localAddr, remote, tcpConfig, localLinkAddr, config⟩, result⟩
    · rw [connecting]
      exact noMore
  | some outcome =>
    cases outcome with
    | error fail =>
      have after : polls waker opening = .failed opening.transmitted := by
        simp only [polls, ActiveOpenSocket.pollResult, pending]
      rw [after] at target_eq
      refine heard.client_goes_on (.of_none rfl) target_eq ?_ alone (by rw [target_eq]; rfl) [] ?_ (by simp)
      · rintro _ ⟨⟩
      · rw [connecting]
        exact noMore
    | ok cb =>
      have after : polls waker opening = .connected ⟨⟨cb, .top⟩, opening.transmitted⟩ := by
        simp only [polls, ActiveOpenSocket.pollResult, pending]
      have built := result cb pending
      subst built
      rw [after] at target_eq
      rw [target_eq]
      refine heard.quiet (.of_none rfl) heard.listens heard.serves heard.synAcks (by rintro _ ⟨⟩) ?_ ?_
      · have still := heard.delivering
        rw [ends_client]
        convert still using 1
        rw [Function.update_eq_self_iff, ends, connecting]
        rfl
      · rintro (_ | _) endpoint ⟨before, got⟩
        · cases got
          rfl
        · cases before.symm.trans got

/-- The accepted connection of the server opens nothing. -/
theorem Heard.accepted_noSyn (heard : Heard setup profile serverIsn past source)
    {endpoint : Endpoint κ ρ} (accepted : source.accepted = some endpoint)
    {segment : TcpSegment} (member : segment ∈ endpoint.sent) : segment.tcpHdr.syn = false := by
  obtain earlier | own := List.mem_append.mp member
  · have serves := heard.serves
    rw [accepted] at serves
    cases serves with
    | accepted _ _ _ noSyn => exact noSyn segment earlier
  · obtain ⟨_, _, there⟩ := heard.delivering .client
    refine there.heard_noSyn ?_
    change segment ∈ (serverEndpoint setup serverIsn _ source.accepted).connection.cb.transmitted
    rw [accepted]
    exact own

/-- A connecting socket takes no other segment of the server than a SYN+ACK for one. -/
theorem Heard.synAck_of_syn (heard : Heard setup profile serverIsn past source)
    {segment : TcpSegment} (member : segment ∈ source.serverSent setup)
    (syn : segment.tcpHdr.syn = true) : IsSynAck setup serverIsn segment := by
  obtain listening | accepted := List.mem_append.mp member
  · exact heard.synAcks segment listening
  · cases taken : source.accepted with
    | none =>
      rw [taken] at accepted
      cases accepted
    | some endpoint =>
      rw [taken] at accepted
      cases (heard.accepted_noSyn taken accepted).symm.trans syn

/-- A segment of the server arrives at the client. -/
theorem Heard.clientHears (heard : Heard setup profile serverIsn past source)
    (short : ∀ side, (written profile side past).length + 1 < 2 ^ 31) {env : Env} {place : Nat}
    {segment : TcpSegment} (member : segment ∈ source.serverSent setup) {client : ClientEnd κ ρ}
    (hears : Session.clientHears profile env segment source.client = .ok client) :
    let target := { source with client }
    Heard setup profile serverIsn (⟨source, .clientHears env place, target⟩ :: past) target := by
  intro target
  have target_eq : target = { source with client } := rfl
  cases before : source.client with
  | connecting opening =>
    obtain ⟨configured, result⟩ := heard.client opening before
    have alone : source.endpoint .client = none := by rw [endpoint, before]
    have noMore : source.client.sent = source.client.sent ++ [] := (List.append_nil _).symm
    rw [before] at hears noMore
    obtain ⟨opening', receives, rest⟩ := bind_ok.mp hears
    cases rest
    obtain ⟨localIsn, localAddr, remote, tcpConfig, localLinkAddr, config⟩ := configured
    obtain rfl | ⟨fail, rfl⟩ | ⟨cb, remoteLinkAddr, -, -, -, syn, opened, rfl⟩ :=
      Opening.receive_cases receives
    · refine heard.client_goes_on (.of_none rfl) target_eq ?_ alone rfl [] ?_ (by simp)
      · rintro _ ⟨⟩
        exact ⟨⟨localIsn, localAddr, remote, tcpConfig, localLinkAddr, config⟩, result⟩
      · rw [before]
        exact noMore
    · refine heard.client_goes_on (.of_none rfl) target_eq ?_ alone rfl [] ?_ (by simp)
      · rintro _ ⟨⟩
        refine ⟨⟨localIsn, localAddr, remote, tcpConfig, localLinkAddr, config⟩, ?_⟩
        rintro cb ⟨⟩
      · rw [before]
        exact noMore
    · obtain ⟨header, -⟩ := heard.synAck_of_syn member syn
      rw [header] at opened
      have built := Setup.opened_client localIsn localAddr remote tcpConfig localLinkAddr opened
      refine heard.client_goes_on (.of_none rfl) target_eq ?_ alone rfl
        [opening.socket.acknowledgement segment.tcpHdr remoteLinkAddr] ?_ ?_
      · rintro _ ⟨⟩
        refine ⟨⟨localIsn, localAddr, remote, tcpConfig, localLinkAddr, config⟩, ?_⟩
        rintro _ ⟨⟩
        exact built
      · rw [before]
        rfl
      · intro segment' own
        rw [List.mem_singleton.mp own]
        refine .inr ⟨rfl, rfl, rfl, rfl, ?_⟩
        rw [header]
        rfl
  | connected endpoint =>
    rw [before] at hears
    obtain ⟨endpoint', receives, rest⟩ := bind_ok.mp hears
    cases rest
    obtain ⟨connection, advanced, rest⟩ := bind_ok.mp receives
    cases rest
    refine heard.quiet (.of_none rfl) heard.listens heard.serves heard.synAcks (by rintro _ ⟨⟩) ?_ ?_
    · have here : source.ends setup serverIsn .client = endpoint := by rw [ends, before]; rfl
      rw [← here] at advanced
      have arrived : segment ∈ (source.ends setup serverIsn (.other .client)).sent := by
        rw [show source.ends setup serverIsn (.other .client) = serverEndpoint setup serverIsn _ _ from
          rfl, serverEndpoint_sent]
        exact member
      have further := heard.delivering.arrives short arrived advanced
      rw [ends_client]
      rw [advance, here] at further
      exact further
    · rintro (_ | _) other ⟨none, some⟩
      · rw [Session.endpoint, before] at none
        cases none
      · cases none.symm.trans some
  | failed transmitted =>
    rw [before] at hears
    cases hears
    refine heard.client_goes_on (.of_none rfl) target_eq (by rintro _ ⟨⟩) (by rw [endpoint, before]) rfl [] ?_
      (by simp)
    rw [before]
    exact (List.append_nil _).symm

/-- An end that has its connection acts by itself. -/
theorem Heard.acted (heard : Heard setup profile serverIsn past source)
    (short : ∀ side, (written profile side past).length + 1 < 2 ^ 31) {side : Side}
    {own : OwnAction} (actor : SessionAction.actor action = some (side, own))
    {endpoint : Endpoint κ ρ} {connection : Connection κ ρ}
    (has : source.endpoint side = some endpoint)
    (unmarked : Unmarked endpoint.connection own.action)
    (advanced : endpoint.connection.step profile own.action = .ok connection)
    (becomes : target.endpoint side = some { endpoint with connection })
    (after : target.ends setup serverIsn =
      (source.ends setup serverIsn).advance side connection)
    (here : (source.ends setup serverIsn side).connection = endpoint.connection) :
    Delivering (iss setup serverIsn)
      (fun side => written profile side (⟨source, action, target⟩ :: past))
      (fun side => read side (⟨source, action, target⟩ :: past)) (target.ends setup serverIsn) := by
  rw [after]
  rw [← here] at unmarked advanced
  refine heard.delivering.acts (fun side => Nat.lt_of_succ_lt (short side)) unmarked advanced ?_ ?_
  all_goals
    intro side'
    by_cases same : side = side'
    · subst same
      simp only [written, writes, read, reads, actor, has, becomes, if_true, here]
    · simp only [written, writes, read, reads, actor]
      cases source.endpoint side' <;> cases target.endpoint side' <;> simp only [if_neg same]

/-- The application or a coroutine of the client acts. -/
theorem Heard.clientActs (heard : Heard setup profile serverIsn past source)
    (short : ∀ side, (written profile side past).length + 1 < 2 ^ 31) {own : OwnAction}
    {endpoint : Endpoint κ ρ} {connection : Connection κ ρ}
    (connected : source.client = .connected endpoint)
    (unmarked : Unmarked endpoint.connection own.action)
    (advanced : endpoint.connection.step profile own.action = .ok connection) :
    let target := { source with client := .connected { endpoint with connection } }
    Heard setup profile serverIsn (⟨source, .clientActs own, target⟩ :: past) target := by
  intro target
  have has : source.endpoint .client = some endpoint := by rw [Session.endpoint, connected]
  have here : source.ends setup serverIsn .client = endpoint := by rw [ends, connected]; rfl
  refine ⟨heard.listens, heard.serves, heard.synAcks, by rintro _ ⟨⟩, ?_, ?_⟩
  · refine heard.acted short rfl has unmarked advanced rfl ?_ (by rw [here])
    rw [ends_client, advance, here]
    rfl
  · intro transition member side got opened
    obtain rfl | member := List.mem_cons.mp member
    · obtain ⟨none, some⟩ := opened
      cases side with
      | client => cases has.symm.trans none
      | server => cases none.symm.trans some
    · exact heard.opens transition member side got opened

/-- The application or a coroutine of the server acts on the accepted connection. -/
theorem Heard.serverActs (heard : Heard setup profile serverIsn past source)
    (short : ∀ side, (written profile side past).length + 1 < 2 ^ 31) {own : OwnAction}
    {endpoint : Endpoint κ ρ} {connection : Connection κ ρ}
    (accepted : source.accepted = some endpoint)
    (unmarked : Unmarked endpoint.connection own.action)
    (advanced : endpoint.connection.step profile own.action = .ok connection) :
    let target := { source with accepted := some { endpoint with connection } }
    Heard setup profile serverIsn (⟨source, .serverActs own, target⟩ :: past) target := by
  intro target
  have here : source.ends setup serverIsn .server = ⟨endpoint.connection,
      (source.listener.record setup.clientAddr).sent ++ endpoint.earlier⟩ := by
    rw [ends, accepted]
    rfl
  refine ⟨heard.listens, ?_, heard.synAcks, heard.client, ?_, ?_⟩
  · have serves := heard.serves
    rw [accepted] at serves
    cases serves with
    | accepted entry task queued noSyn => exact .accepted entry task queued noSyn
  · refine heard.acted short rfl accepted unmarked advanced rfl ?_ (by rw [here])
    rw [show target = { source with listener := source.listener, accepted := _ } from rfl, ends_server,
      advance, here]
    rfl
  · intro transition member side got opened
    obtain rfl | member := List.mem_cons.mp member
    · obtain ⟨none, some⟩ := opened
      cases side with
      | client => cases none.symm.trans some
      | server => cases accepted.symm.trans none
    · exact heard.opens transition member side got opened

/-- The listening socket goes on, and may have sent more SYN+ACKs to the client. -/
theorem Heard.listener_goes_on (heard : Heard setup profile serverIsn past source)
    (still : Still profile ⟨source, action, target⟩) {listener : Listener κ ρ}
    (changed : target = { source with listener }) (listens : Listens setup listener)
    (serves : Serves setup serverIsn (listener.record setup.clientAddr) source.accepted)
    (more : List TcpSegment) (alone : source.accepted = none ∨ more = [])
    (sent : (listener.record setup.clientAddr).sent =
      (source.listener.record setup.clientAddr).sent ++ more)
    (each : ∀ segment ∈ more, IsSynAck setup serverIsn segment) :
    Heard setup profile serverIsn (⟨source, action, target⟩ :: past) target := by
  subst changed
  refine heard.quiet still listens serves ?_ heard.client ?_ ?_
  · intro segment member
    rw [sent] at member
    exact (List.mem_append.mp member).elim (heard.synAcks segment) (each segment)
  · have further := heard.delivering.handshakes .server fun segment member =>
      .inl (each segment member).stale
    rw [show ({ source with listener } : Session κ ρ) =
      { source with listener, accepted := source.accepted } from rfl, ends_server, sent]
    obtain none | rfl := alone
    · rw [none]
      rw [show source.ends setup serverIsn .server = serverEndpoint setup serverIsn _ source.accepted
        from rfl, none] at further
      exact further
    · rw [List.append_nil]
      rw [List.append_nil] at further
      exact further
  · rintro (_ | _) endpoint ⟨none, some⟩ <;> cases none.symm.trans some

/-- An outcome for a segment leaves the configuration of the listening socket. -/
theorem Listens.of_outcome {listener listener' : Listener κ ρ} {action : ListenerAction κ ρ}
    (listens : Listens setup listener)
    (outcome : Listener.Outcome profile listener action listener') : Listens setup listener' := by
  have same := outcome.configuration
  simp only [Listener.configuration, Prod.mk.injEq] at same
  obtain ⟨localAddr, tcpConfig, localLinkAddr, config⟩ := same
  exact ⟨localAddr.trans listens.localAddr, tcpConfig.trans listens.tcpConfig,
    localLinkAddr.trans listens.localLinkAddr, config.trans listens.config⟩

/-- A segment arrives at the listening socket, of the client or of another one. -/
theorem Heard.listener_hears (heard : Heard setup profile serverIsn past source)
    {digest : UInt32} {ipHeader : Ipv4Header} {header : TcpHeader} {listener : Listener κ ρ}
    (still : Still profile ⟨source, action, { source with listener }⟩)
    (own : Listener.source ipHeader header = setup.clientAddr → source.accepted = none)
    (advanced : source.listener.step profile (.segment digest ipHeader header) = .ok listener) :
    let target := { source with listener }
    Heard setup profile serverIsn (⟨source, action, target⟩ :: past) target := by
  intro target
  have outcome := Listener.step_outcome advanced
  have listens := heard.listens.of_outcome outcome
  have serves := heard.serves
  have unchanged (same : listener.record setup.clientAddr =
      source.listener.record setup.clientAddr) :
      Heard setup profile serverIsn (⟨source, action, target⟩ :: past) target :=
    heard.listener_goes_on still rfl listens (by rw [same]; exact serves) [] (.inr rfl)
      (by rw [same, List.append_nil]) (by simp)
  by_cases client : Listener.source ipHeader header = setup.clientAddr
  · have alone := own client
    rw [alone] at serves
    obtain same | ⟨unlisted, absent, syn, localIsn, after⟩ |
      ⟨inflight, cb, found, acks, number, opened, after⟩ := Listener.record_own client outcome
    · exact unchanged same
    -- The client has an entry or a waiting connection, so that no handshake begins.
    · cases serves with
      | waiting entry task queued => cases entry.symm.trans absent
      | queued entry task queued listed => cases listed.symm.trans unlisted
    · cases serves with
      | waiting entry task queued =>
        cases entry.symm.trans found
        have built := Setup.opened_server heard.listens.localAddr heard.listens.tcpConfig
          heard.listens.localLinkAddr opened
        refine heard.listener_goes_on still rfl listens ?_ [] (.inr rfl) ?_ (by simp)
        · rw [after, alone]
          refine .queued rfl rfl ?_ rfl
          simp only [queued, List.nil_append, built]
        · rw [after, List.append_nil]
      | queued entry task queued listed => cases entry.symm.trans found
  · exact unchanged (Listener.record_other client outcome)

/-- What happens to the accepted connection leaves everything else as it is. -/
theorem Heard.accepted_goes_on (heard : Heard setup profile serverIsn past source)
    (still : Still profile ⟨source, action, target⟩) {endpoint endpoint' : Endpoint κ ρ}
    (accepted : source.accepted = some endpoint)
    (changed : target = { source with accepted := some endpoint' })
    (noSyn : ∀ segment ∈ endpoint'.earlier, segment.tcpHdr.syn = false)
    (delivering : Delivering (iss setup serverIsn) (fun side => written profile side past)
      (fun side => read side past) (Function.update (source.ends setup serverIsn) .server
        ⟨endpoint'.connection,
          (source.listener.record setup.clientAddr).sent ++ endpoint'.earlier⟩)) :
    Heard setup profile serverIsn (⟨source, action, target⟩ :: past) target := by
  subst changed
  refine heard.quiet still heard.listens ?_ heard.synAcks heard.client ?_ ?_
  · have serves := heard.serves
    rw [accepted] at serves
    cases serves with
    | accepted entry task queued => exact .accepted entry task queued noSyn
  · rw [show ({ source with accepted := some endpoint' } : Session κ ρ) =
      { source with listener := source.listener, accepted := some endpoint' } from rfl, ends_server]
    exact delivering
  · rintro (_ | _) other ⟨none, some⟩
    · cases none.symm.trans some
    · cases accepted.symm.trans none

/-- A segment of the client arrives at the server. -/
theorem Heard.serverHears (heard : Heard setup profile serverIsn past source)
    (short : ∀ side, (written profile side past).length + 1 < 2 ^ 31) {env : Env} {digest : UInt32}
    {place : Nat} {segment : TcpSegment} (member : segment ∈ source.client.sent)
    (hears : source.serverHears profile env digest segment = .ok target) :
    Heard setup profile serverIsn (⟨source, .serverHears env digest place, target⟩ :: past)
      target := by
  unfold Session.serverHears at hears
  cases accepted : source.accepted with
  | some endpoint =>
    rw [accepted] at hears
    obtain ⟨endpoint', receives, rest⟩ := bind_ok.mp hears
    cases rest
    obtain ⟨connection, advanced, rest⟩ := bind_ok.mp receives
    cases rest
    have serves := heard.serves
    rw [accepted] at serves
    have here : source.ends setup serverIsn .server = ⟨endpoint.connection,
        (source.listener.record setup.clientAddr).sent ++ endpoint.earlier⟩ := by
      rw [ends, accepted]
      rfl
    refine heard.accepted_goes_on (.of_none rfl) accepted rfl ?_ ?_
    · cases serves with
      | accepted entry task queued noSyn => exact noSyn
    · have arrived : segment ∈ (source.ends setup serverIsn (.other .server)).sent := by
        rw [show source.ends setup serverIsn (.other .server) = clientEndpoint setup serverIsn _ from
          rfl, clientEndpoint_sent]
        exact member
      have advanced' : (source.ends setup serverIsn .server).connection.step profile
          (.receive env segment.tcpHdr (segment.data.getD [])) = .ok connection := by
        rw [here]
        exact advanced
      have further := heard.delivering.arrives short arrived advanced'
      rw [advance, here] at further
      exact further
  | none =>
    rw [accepted] at hears
    obtain ⟨listener, advanced, rest⟩ := bind_ok.mp hears
    cases rest
    rw [← accepted]
    exact heard.listener_hears (.of_none rfl) (fun _ => accepted) advanced

/-- The coroutine of a handshake goes on. -/
theorem Heard.serverBackground (heard : Heard setup profile serverIsn past source)
    {remote : SocketAddrV4} {now : Instant} {arp : Option (Except Fail MacAddress)}
    {listener : Listener κ ρ}
    (advanced : source.listener.step profile (.background remote now arp) = .ok listener) :
    let target := { source with listener }
    Heard setup profile serverIsn (⟨source, .serverBackground remote now arp, target⟩ :: past)
      target := by
  intro target
  have outcome := Listener.step_outcome advanced
  obtain ⟨progress, more, after, each⟩ := Listener.record_background outcome
  have serves := heard.serves
  refine heard.listener_goes_on (.of_none rfl) rfl (heard.listens.of_outcome outcome) ?_ more ?_ (by rw [after])
    ?_
  · rw [after]
    generalize source.accepted = accepted at serves ⊢
    cases serves with
    | waiting entry task queued =>
      refine .waiting entry (fun task' running => ?_) queued
      obtain ⟨earlier, found, rfl⟩ := Option.map_eq_some_iff.mp running
      exact task earlier found
    | queued entry task queued listed =>
      refine .queued entry ?_ queued listed
      rw [show (source.listener.record setup.clientAddr).task = none from task]
      rfl
    | accepted entry task queued noSyn =>
      refine .accepted entry ?_ queued noSyn
      rw [show (source.listener.record setup.clientAddr).task = none from task]
      rfl
  · cases accepted : source.accepted with
    | none => exact .inl rfl
    | some endpoint =>
      rw [accepted] at serves
      cases serves with
      | accepted entry task queued noSyn =>
        refine .inr (List.eq_nil_iff_forall_not_mem.mpr fun segment member => ?_)
        obtain ⟨running, _, found, -⟩ := each segment member
        cases task.symm.trans found
  · intro segment member
    obtain ⟨task, remoteLinkAddr, running, rfl⟩ := each segment member
    have numbers : task.localIsn = serverIsn ∧ task.remoteIsn = setup.clientIsn := by
      generalize source.accepted = accepted at serves
      cases serves with
      | waiting entry tasks queued => exact tasks task running
      | queued entry task' queued listed => cases task'.symm.trans running
      | accepted entry task' queued noSyn => cases task'.symm.trans running
    obtain ⟨localAddr, tcpConfig, localLinkAddr, config⟩ := heard.listens
    refine ⟨?_, rfl⟩
    simp only [PassiveSocket.synAck, numbers.1, numbers.2, localAddr, tcpConfig, config, Setup.synAck]

/-- The application of the server accepts a connection. -/
theorem Heard.serverAccepts (heard : Heard setup profile serverIsn past source) {waker : Waker}
    (accepts : source.serverAccepts setup waker = .ok target) :
    Heard setup profile serverIsn (⟨source, .serverAccepts waker, target⟩ :: past) target := by
  obtain ⟨⟨ready, polled⟩, polls, rest⟩ := bind_ok.mp accepts
  have serves := heard.serves
  have listens : Listens setup { source.listener with
      passive := { source.listener.passive with ready } } :=
    ⟨heard.listens.localAddr, heard.listens.tcpConfig, heard.listens.localLinkAddr,
      heard.listens.config⟩
  obtain ⟨others, same⟩ | ⟨cb, taken, client, queued', entry', task', sent'⟩ :=
    @Listener.record_accept κ ρ source.listener setup.clientAddr waker ready polled polls
  · -- The connection of another client, or none.
    have changed : target = { source with listener := { source.listener with
        passive := { source.listener.passive with ready } } } := by
      dsimp only at rest
      split at rest
      · rename_i cb
        rw [if_neg (others cb rfl)] at rest
        cases rest
        rfl
      all_goals
        cases rest
        rfl
    exact heard.listener_goes_on (.of_none rfl) changed listens (by rw [same]; exact serves) [] (.inr rfl)
      (by rw [same, List.append_nil]) (by simp)
  subst taken
  dsimp only at rest
  rw [if_pos client] at rest
  cases rest
  cases accepted : source.accepted with
  | some endpoint =>
    rw [accepted] at serves
    cases serves with
    | accepted entry task queued => cases queued.symm.trans queued'
  | none =>
    rw [accepted] at serves
    cases serves with
    | waiting entry task queued => cases queued.symm.trans queued'
    | queued entry task queued listed =>
      obtain ⟨built, rest⟩ := List.cons.inj (queued.symm.trans queued')
      subst built
      refine heard.quiet (.of_none rfl) listens ?_ ?_ heard.client ?_ ?_
      · exact .accepted (entry'.trans entry) (task'.trans task) rest.symm (by simp)
      · rw [sent']
        exact heard.synAcks
      · rw [show (⟨source.client, _, _⟩ : Session κ ρ) = { source with
          listener := _, accepted := _ } from rfl, ends_server, sent']
        convert heard.delivering using 1
        rw [Function.update_eq_self_iff, ends, accepted, serverEndpoint, serverEndpoint,
          List.append_nil]
        rfl
      · rintro (_ | _) endpoint ⟨none, some⟩
        · cases none.symm.trans some
        · cases some
          rfl

/-- The accepted connection moves to another server. -/
theorem Heard.serverMigrates (heard : Heard setup profile serverIsn past source)
    {application : Option ApplicationState} {importer : Importer} {localAddr : SocketAddrV4}
    {endpoint endpoint' : Endpoint κ ρ} (accepted : source.accepted = some endpoint)
    (established : endpoint.connection.cb.state = .established)
    (sending : endpoint.connection.cb.userIsDoneSending = false)
    (migrates : Session.serverMigrates profile application importer localAddr endpoint =
      .ok endpoint') :
    let target := { source with accepted := some endpoint' }
    Heard setup profile serverIsn
      (⟨source, .serverMigrates application importer localAddr, target⟩ :: past) target := by
  intro target
  obtain ⟨rebuilt, migrated, rest⟩ := bind_ok.mp migrates
  cases rest
  have here : source.ends setup serverIsn .server = ⟨endpoint.connection,
      (source.listener.record setup.clientAddr).sent ++ endpoint.earlier⟩ := by
    rw [ends, accepted]
    rfl
  refine heard.accepted_goes_on (.of_none rfl) accepted rfl
    (fun segment member => heard.accepted_noSyn accepted member) ?_
  have connection : (source.ends setup serverIsn .server).connection = endpoint.connection := by
    rw [here]
  rw [← connection] at established sending migrated
  have further := heard.delivering.migrates established sending migrated
  rw [here, Endpoint.sent, List.append_assoc] at further
  exact further

/-- Nothing that concerns both has happened yet. -/
theorem Unheard.quiet (unheard : Unheard setup profile past source)
    (still : Still profile ⟨source, action, target⟩) (listens : Listens setup target.listener)
    (same : target.listener.record setup.clientAddr = source.listener.record setup.clientAddr)
    (accepted : target.accepted = none)
    (client : Expects setup (fun _ => False) target.client)
    (unconnected : target.endpoint .client = none)
    (syns : ∀ segment ∈ target.client.sent, IsSyn setup segment) :
    Unheard setup profile (⟨source, action, target⟩ :: past) target := by
  obtain ⟨-, entry, task, queued, silent, -, -, -, -, written, read, opens⟩ := unheard
  rw [← same] at entry task queued silent
  refine ⟨listens, entry, task, queued, silent, accepted, client, unconnected, syns,
    fun side => ?_, fun side => ?_, ?_⟩
  · rw [written_still still, written]
  · rw [read_still still, read]
  · intro transition member side endpoint opened
    obtain rfl | member := List.mem_cons.mp member
    · cases side with
      | client => cases unconnected.symm.trans opened.2
      | server => cases accepted.symm.trans opened.2
    · exact opens transition member side endpoint opened

/-- The client goes on before the server has heard of it. -/
theorem Unheard.client_goes_on (unheard : Unheard setup profile past source)
    (still : Still profile ⟨source, action, target⟩) {client : ClientEnd κ ρ}
    (changed : target = { source with client }) (expects : Expects setup (fun _ => False) client)
    (unconnected : target.endpoint .client = none)
    (syns : ∀ segment ∈ client.sent, IsSyn setup segment) :
    Unheard setup profile (⟨source, action, target⟩ :: past) target := by
  subst changed
  exact unheard.quiet still unheard.listens rfl unheard.accepted expects unconnected syns

/-- The listening socket goes on with other clients. -/
theorem Unheard.listener_goes_on (unheard : Unheard setup profile past source)
    (still : Still profile ⟨source, action, target⟩) {listener : Listener κ ρ}
    (changed : target = { source with listener }) (listens : Listens setup listener)
    (same : listener.record setup.clientAddr = source.listener.record setup.clientAddr) :
    Unheard setup profile (⟨source, action, target⟩ :: past) target := by
  subst changed
  exact unheard.quiet still listens same unheard.accepted unheard.client unheard.unconnected
    unheard.syns

/-- Nothing at all happens. -/
theorem Unheard.idle (unheard : Unheard setup profile past source)
    (still : Still profile ⟨source, action, source⟩) :
    Unheard setup profile (⟨source, action, source⟩ :: past) source :=
  unheard.client_goes_on still rfl unheard.client unheard.unconnected unheard.syns

/-- A client that the server has not heard of is not connected, and opens its direction anew. -/
theorem Unheard.clientEnd (unheard : Unheard setup profile past source) (listener : Listener κ ρ)
    (serverIsn : SeqNumber) :
    ({ source with listener } : Session κ ρ).ends setup serverIsn .client =
      ⟨.new (setup.args serverIsn .client), source.client.sent⟩ := by
  have alone := unheard.unconnected
  unfold endpoint at alone
  rw [ends]
  cases client : source.client with
  | connected endpoint =>
    rw [client] at alone
    cases alone
  | connecting | failed => rfl

/-- Nothing has been delivered when the handshake begins: all that is under way are SYNs of
the client, which are stale for both connections. -/
theorem Unheard.delivering (unheard : Unheard setup profile past source) (valid : setup.Valid)
    {listener : Listener κ ρ} {serverIsn : SeqNumber}
    (serverEnd : ({ source with listener } : Session κ ρ).ends setup serverIsn .server =
      ⟨.new (setup.args serverIsn .server), []⟩) :
    Delivering (iss setup serverIsn) (fun _ => []) (fun _ => [])
      (({ source with listener } : Session κ ρ).ends setup serverIsn) := by
  have clientEnd := unheard.clientEnd listener serverIsn
  have fresh (side : Side) : (({ source with listener } : Session κ ρ).ends setup serverIsn
      side).connection = Connection.new (setup.args serverIsn side) := by
    cases side with
    | client => rw [clientEnd]
    | server => rw [serverEnd]
  have stale (segment : TcpSegment) (sent : segment ∈ source.client.sent) :
      Stale (iss setup serverIsn .client) segment := (unheard.syns segment sent).stale
  intro side
  refine ⟨0, 0, fresh_delivery (Setup.args_mirrored valid serverIsn).1 side fresh ?_ ?_⟩
  · cases side with
    | client =>
      rw [clientEnd]
      exact fun segment sent => .inl (stale segment sent)
    | server =>
      rw [serverEnd]
      simp
  · cases side with
    | client =>
      change ∀ segment ∈ (ends setup serverIsn _ .server).earlier, _
      rw [serverEnd]
      simp
    | server =>
      change ∀ segment ∈ (ends setup serverIsn _ .client).earlier, _
      rw [clientEnd]
      intro segment sent noSyn
      cases (stale segment sent).syn.symm.trans noSyn

/-- The listening socket hears the client: it drops the SYN, or the handshake begins. -/
theorem Unheard.serverHears (valid : setup.Valid) (unheard : Unheard setup profile past source)
    {env : Env} {digest : UInt32} {place : Nat} {segment : TcpSegment}
    (member : segment ∈ source.client.sent)
    (hears : source.serverHears profile env digest segment = .ok target) :
    let past' := ⟨source, .serverHears env digest place, target⟩ :: past
    Unheard setup profile past' target ∨ ∃ serverIsn, Heard setup profile serverIsn past' target := by
  intro past'
  have still : Still profile ⟨source, .serverHears env digest place, target⟩ := .of_none rfl
  obtain ⟨header, address, -⟩ := unheard.syns segment member
  unfold Session.serverHears at hears
  simp only [unheard.accepted] at hears
  obtain ⟨listener, advanced, rest⟩ := bind_ok.mp hears
  have changed : target = { source with listener } := by
    cases rest
    rw [← unheard.accepted]
  have outcome := Listener.step_outcome advanced
  have listens := unheard.listens.of_outcome outcome
  have own : Listener.source ⟨segment.srcAddr, segment.dstAddr⟩ segment.tcpHdr =
      setup.clientAddr := by
    rw [Listener.source, address, header]
    rfl
  obtain same | ⟨-, -, -, serverIsn, after⟩ | ⟨inflight, _, found, -⟩ :=
    Listener.record_own own outcome
  · exact .inl (unheard.listener_goes_on (.of_none rfl) changed listens same)
  · subst changed
    refine .inr ⟨serverIsn, listens, ?_, ?_, ?_, ?_, ?_⟩
    · rw [after, unheard.accepted, header]
      refine .waiting rfl ?_ unheard.queued
      rintro _ ⟨⟩
      exact ⟨rfl, rfl⟩
    · rw [after]
      change ∀ segment ∈ (source.listener.record setup.clientAddr).sent, _
      rw [unheard.silent]
      simp
    · exact fun opening connecting => (unheard.client opening connecting).imp_right
        fun never cb ready => (never cb ready).elim
    · have serverEnd : ({ source with listener } : Session κ ρ).ends setup serverIsn .server =
          ⟨.new (setup.args serverIsn .server), []⟩ := by
        rw [ends, after]
        simp only [unheard.silent, unheard.accepted, serverEndpoint]
      simp only [past', written_still still, read_still still, unheard.written, unheard.read]
      exact unheard.delivering valid serverEnd
    · intro transition member side endpoint opened
      obtain rfl | member := List.mem_cons.mp member
      · obtain ⟨none, some⟩ := opened
        cases side <;> cases none.symm.trans some
      · exact absurd opened (unheard.opens transition member side endpoint)
  · cases unheard.entry.symm.trans found

/-- The coroutine of the client goes on: it sends SYNs and nothing else. -/
theorem Unheard.clientBackground (unheard : Unheard setup profile past source) (now : Instant)
    (arp : Option (Except Fail MacAddress)) {opening : Opening κ ρ}
    (connecting : source.client = .connecting opening) :
    let target := { source with client := .connecting (opening.background now arp) }
    Unheard setup profile (⟨source, .clientBackground now arp, target⟩ :: past) target := by
  intro target
  obtain ⟨configured, never⟩ := unheard.client opening connecting
  obtain ⟨configured', kept, more, sent, syns⟩ := configured.background now arp
  refine unheard.client_goes_on (.of_none rfl) rfl ?_ rfl fun segment member => ?_
  · rintro _ ⟨⟩
    exact ⟨configured', fun cb ready => never cb (kept cb ready)⟩
  · have before := unheard.syns
    rw [connecting] at before
    rw [ClientEnd.sent, sent] at member
    exact (List.mem_append.mp member).elim (before segment) (syns segment)

/-- The application of the client asks for its connection, and there is none. -/
theorem Unheard.clientPolls (unheard : Unheard setup profile past source) (waker : Waker)
    {opening : Opening κ ρ} (connecting : source.client = .connecting opening) :
    let target := { source with client := polls waker opening }
    Unheard setup profile (⟨source, .clientPolls waker, target⟩ :: past) target := by
  intro target
  obtain ⟨configured, never⟩ := unheard.client opening connecting
  have syns := unheard.syns
  rw [connecting] at syns
  have changed : target = { source with client := polls waker opening } := rfl
  cases pending : opening.socket.result with
  | none =>
    have after : polls waker opening = .connecting { opening with
        socket := { opening.socket with waker := some waker } } := by
      simp only [polls, ActiveOpenSocket.pollResult, pending]
    obtain ⟨localIsn, localAddr, remote, tcpConfig, localLinkAddr, config⟩ := configured
    rw [after] at changed
    refine unheard.client_goes_on (.of_none rfl) changed ?_ (by rw [changed]; rfl) syns
    rintro _ ⟨⟩
    exact ⟨⟨localIsn, localAddr, remote, tcpConfig, localLinkAddr, config⟩, never⟩
  | some outcome =>
    cases outcome with
    | error fail =>
      have after : polls waker opening = .failed opening.transmitted := by
        simp only [polls, ActiveOpenSocket.pollResult, pending]
      rw [after] at changed
      exact unheard.client_goes_on (.of_none rfl) changed (by rintro _ ⟨⟩) (by rw [changed]; rfl) syns
    | ok cb => cases never cb pending

/-- Another client is heard. -/
theorem Unheard.serverHearsOther (unheard : Unheard setup profile past source) {digest : UInt32}
    {ipHeader : Ipv4Header} {header : TcpHeader} {listener : Listener κ ρ}
    (other : Listener.source ipHeader header ≠ setup.clientAddr)
    (advanced : source.listener.step profile (.segment digest ipHeader header) = .ok listener) :
    let target := { source with listener }
    Unheard setup profile (⟨source, .serverHearsOther digest ipHeader header, target⟩ :: past)
      target := by
  intro target
  have outcome := Listener.step_outcome advanced
  exact unheard.listener_goes_on (.of_none rfl) rfl (unheard.listens.of_outcome outcome)
    (Listener.record_other other outcome)

/-- The coroutine of a handshake goes on, which is not one of the client. -/
theorem Unheard.serverBackground (unheard : Unheard setup profile past source)
    {remote : SocketAddrV4} {now : Instant} {arp : Option (Except Fail MacAddress)}
    {listener : Listener κ ρ}
    (advanced : source.listener.step profile (.background remote now arp) = .ok listener) :
    let target := { source with listener }
    Unheard setup profile (⟨source, .serverBackground remote now arp, target⟩ :: past) target := by
  intro target
  have outcome := Listener.step_outcome advanced
  obtain ⟨progress, more, after, each⟩ := Listener.record_background outcome
  have none : more = [] := by
    refine List.eq_nil_iff_forall_not_mem.mpr fun segment member => ?_
    obtain ⟨running, _, found, -⟩ := each segment member
    cases unheard.task.symm.trans found
  refine unheard.listener_goes_on (.of_none rfl) rfl (unheard.listens.of_outcome outcome) ?_
  rw [after, unheard.task, none, List.append_nil, Option.map_none, ← unheard.task]

/-- The application of the server accepts the connection of another client, or none. -/
theorem Unheard.serverAccepts (unheard : Unheard setup profile past source) {waker : Waker}
    (accepts : source.serverAccepts setup waker = .ok target) :
    Unheard setup profile (⟨source, .serverAccepts waker, target⟩ :: past) target := by
  obtain ⟨⟨ready, polled⟩, polls, rest⟩ := bind_ok.mp accepts
  have listens : Listens setup { source.listener with
      passive := { source.listener.passive with ready } } :=
    ⟨unheard.listens.localAddr, unheard.listens.tcpConfig, unheard.listens.localLinkAddr,
      unheard.listens.config⟩
  obtain ⟨others, same⟩ | ⟨cb, -, -, queued', -⟩ :=
    @Listener.record_accept κ ρ source.listener setup.clientAddr waker ready polled polls
  · refine unheard.listener_goes_on (.of_none rfl) ?_ listens same
    dsimp only at rest
    split at rest
    · rename_i cb
      rw [if_neg (others cb rfl)] at rest
      cases rest
      rfl
    all_goals
      cases rest
      rfl
  · cases unheard.queued.symm.trans queued'

/-- Before the server has taken a SYN, a step keeps it so or begins the handshake. -/
theorem Unheard.step (valid : setup.Valid) (unheard : Unheard setup profile past source)
    (advanced : source.step setup profile action = .ok target) :
    Unheard setup profile (⟨source, action, target⟩ :: past) target ∨
      ∃ serverIsn, Heard setup profile serverIsn (⟨source, action, target⟩ :: past) target := by
  cases action with
  | clientBackground now arp =>
    left
    simp only [Session.step] at advanced
    split at advanced <;> cases advanced
    · rename_i opening connecting
      exact unheard.clientBackground now arp connecting
    all_goals exact unheard.idle (.of_none rfl)
  | clientPolls waker =>
    left
    simp only [Session.step] at advanced
    split at advanced <;> cases advanced
    · rename_i opening connecting
      exact unheard.clientPolls waker connecting
    all_goals exact unheard.idle (.of_none rfl)
  | clientHears env place =>
    left
    have nothing : source.serverSent setup = [] := by
      rw [serverSent, unheard.silent, unheard.accepted]
      rfl
    simp only [Session.step, nothing] at advanced
    cases advanced
    exact unheard.idle (.of_none rfl)
  | clientActs own =>
    left
    have alone := unheard.unconnected
    simp only [Session.step] at advanced
    split at advanced
    · rename_i endpoint connected
      rw [Session.endpoint, connected] at alone
      cases alone
    all_goals
      cases advanced
      exact unheard.idle (.of_waiting rfl alone)
  | serverHears env digest place =>
    simp only [Session.step] at advanced
    split at advanced
    · rename_i segment found
      exact unheard.serverHears valid (List.mem_of_getElem? found) advanced
    · cases advanced
      exact .inl (unheard.idle (.of_none rfl))
  | serverHearsOther digest ipHeader header =>
    left
    simp only [Session.step] at advanced
    split at advanced
    · cases advanced
      exact unheard.idle (.of_none rfl)
    · rename_i other
      obtain ⟨listener, steps, rest⟩ := bind_ok.mp advanced
      cases rest
      exact unheard.serverHearsOther other steps
  | serverBackground remote now arp =>
    left
    obtain ⟨listener, steps, rest⟩ := bind_ok.mp advanced
    cases rest
    exact unheard.serverBackground steps
  | serverAccepts waker => exact .inl (unheard.serverAccepts advanced)
  | serverActs own =>
    simp only [Session.step, unheard.accepted] at advanced
    cases advanced
    exact .inl (unheard.idle (.of_waiting rfl unheard.accepted))
  | serverMigrates application importer localAddr =>
    simp only [Session.step, unheard.accepted] at advanced
    cases advanced
    exact .inl (unheard.idle (.of_none rfl))

/-- Nothing at all happens. -/
theorem Heard.idle (heard : Heard setup profile serverIsn past source)
    (still : Still profile ⟨source, action, source⟩) :
    Heard setup profile serverIsn (⟨source, action, source⟩ :: past) source :=
  heard.quiet still heard.listens heard.serves heard.synAcks heard.client heard.delivering
    fun _ _ opened => by cases opened.1.symm.trans opened.2

/-- Once the server has taken a SYN, every step keeps both directions delivering. -/
theorem Heard.step (heard : Heard setup profile serverIsn past source)
    (short : ∀ side, (written profile side past).length + 1 < 2 ^ 31) (kept : Kept source action)
    (advanced : source.step setup profile action = .ok target) :
    Heard setup profile serverIsn (⟨source, action, target⟩ :: past) target := by
  cases action with
  | clientBackground now arp =>
    simp only [Session.step] at advanced
    split at advanced <;> cases advanced
    · rename_i opening connecting
      exact heard.clientBackground now arp connecting
    all_goals exact heard.idle (.of_none rfl)
  | clientPolls waker =>
    simp only [Session.step] at advanced
    split at advanced <;> cases advanced
    · rename_i opening connecting
      exact heard.clientPolls waker connecting
    all_goals exact heard.idle (.of_none rfl)
  | clientHears env place =>
    simp only [Session.step] at advanced
    split at advanced
    · rename_i segment found
      obtain ⟨client, hears, rest⟩ := bind_ok.mp advanced
      cases rest
      exact heard.clientHears short (List.mem_of_getElem? found) hears
    · cases advanced
      exact heard.idle (.of_none rfl)
  | clientActs own =>
    simp only [Session.step] at advanced
    split at advanced
    · rename_i endpoint connected
      obtain ⟨endpoint', acts, rest⟩ := bind_ok.mp advanced
      cases rest
      obtain ⟨connection, steps, rest⟩ := bind_ok.mp acts
      cases rest
      exact heard.clientActs short connected
        (kept.1 .client own endpoint rfl (by rw [Session.endpoint, connected])) steps
    all_goals
      rename_i waiting
      cases advanced
      exact heard.idle (.of_waiting rfl (by rw [endpoint, waiting]))
  | serverHears env digest place =>
    simp only [Session.step] at advanced
    split at advanced
    · rename_i segment found
      exact heard.serverHears short (List.mem_of_getElem? found) advanced
    · cases advanced
      exact heard.idle (.of_none rfl)
  | serverHearsOther digest ipHeader header =>
    simp only [Session.step] at advanced
    split at advanced
    · cases advanced
      exact heard.idle (.of_none rfl)
    · rename_i other
      obtain ⟨listener, steps, rest⟩ := bind_ok.mp advanced
      cases rest
      exact heard.listener_hears (.of_none rfl) (fun own => absurd own other) steps
  | serverBackground remote now arp =>
    obtain ⟨listener, steps, rest⟩ := bind_ok.mp advanced
    cases rest
    exact heard.serverBackground steps
  | serverAccepts waker => exact heard.serverAccepts advanced
  | serverActs own =>
    simp only [Session.step] at advanced
    split at advanced
    · rename_i endpoint accepted
      obtain ⟨endpoint', acts, rest⟩ := bind_ok.mp advanced
      cases rest
      obtain ⟨connection, steps, rest⟩ := bind_ok.mp acts
      cases rest
      exact heard.serverActs short accepted (kept.1 .server own endpoint rfl accepted) steps
    · rename_i waiting
      cases advanced
      exact heard.idle (.of_waiting rfl waiting)
  | serverMigrates application importer localAddr =>
    simp only [Session.step] at advanced
    split at advanced
    · rename_i endpoint accepted
      obtain ⟨endpoint', migrates, rest⟩ := bind_ok.mp advanced
      cases rest
      obtain ⟨established, sending⟩ :=
        kept.2 application importer localAddr endpoint rfl accepted
      exact heard.serverMigrates accepted established sending migrates
    · cases advanced
      exact heard.idle (.of_none rfl)

end Steps

/-! ## Runs -/

variable {setup : Setup} {profile : Profile} {past : List (Transition κ ρ)} {session : Session κ ρ}

/-- What is reached from the start. -/
theorem run_heard (valid : setup.Valid) (run : Run setup profile past session)
    (kept : Runs.Meets Kept past)
    (short : ∀ side, (written profile side past).length + 1 < 2 ^ 31) :
    Unheard setup profile past session ∨ ∃ serverIsn, Heard setup profile serverIsn past session := by
  refine Runs.run_invariant (fun past session =>
    (∀ side, (written profile side past).length + 1 < 2 ^ 31) →
      Unheard setup profile past session ∨ ∃ serverIsn, Heard setup profile serverIsn past session)
    ?_ ?_ run kept short
  · intro _
    refine .inl ⟨⟨rfl, rfl, rfl, rfl⟩, rfl, rfl, rfl, rfl, rfl, ?_, rfl, ?_, fun _ => rfl, fun _ => rfl,
      by simp⟩
    · rintro _ ⟨⟩
      refine ⟨⟨rfl, rfl, rfl, rfl, rfl, rfl⟩, ?_⟩
      rintro cb ⟨⟩
    · intro segment member
      cases member
  · intro past source action target _ kept invariant advanced short
    have before (side : Side) : (written profile side past).length + 1 < 2 ^ 31 := by
      have further := short side
      rw [written, List.length_append] at further
      omega
    obtain unheard | ⟨serverIsn, heard⟩ := invariant before
    · exact unheard.step valid advanced
    · exact .inr ⟨serverIsn, heard.step before kept advanced⟩

/-- A client and a server with the usual configuration. -/
def sampleSetup : Setup where
  clientIsn := SeqNumber.ofU32 999
  clientAddr := ⟨0x0a000009#32, 4000⟩
  serverAddr := ⟨0x0a000001#32, 80⟩
  clientLinkAddr := 1#48
  serverLinkAddr := 3#48
  clientTcp := .sample
  serverTcp := .sample
  clientConfig := ⟨5, 3000000000, 1450⟩
  serverConfig := ⟨5, 3000000000, 1450⟩
  maxBacklog := 8

/-- A handshake, data from the client, and a SYN that comes late. -/
def sampleActions : List SessionAction :=
  [.clientBackground 0 (some (.ok 3#48)), .serverHears (Env.sample 0) 7 0,
    .serverBackground ⟨0x0a000009#32, 4000⟩ 0 (some (.ok 1#48)), .clientHears (Env.sample 0) 0,
    .clientPolls 1, .clientActs ⟨.send (Env.sample 0) [1, 2], rfl⟩, .serverHears (Env.sample 0) 7 1,
    .serverAccepts 2, .serverHears (Env.sample 0) 7 2, .serverHears (Env.sample 0) 7 0,
    .serverActs ⟨.pollRecv 3, rfl⟩]

end Session

end Capybara
