import Capybara.Lib.Runs
import Capybara.Tcp.Effects

/-!
# A listening socket and its handshakes

`passive_open.rs` as one system. Segments, accepts and migrated connections meet the
passive socket, and each SYN that it takes starts a coroutine that sends the SYN+ACK
and repeats it until the retries are used up. The coroutine belongs to the handle
in the entry of the client and is dropped with it; it reads nothing of the socket and
changes nothing of it.

`Outcome` lists once what an action can do, and `step_outcome` shows that there is
nothing else. The time that passes and the answers of the address resolution are
inputs.
-/

namespace Capybara

open Tables Runs

/-- The part of `TcpConfig` that only the coroutine of a handshake reads. -/
structure HandshakeConfig where
  handshakeRetries : Nat
  handshakeTimeout : Duration
  advertisedMss : Nat
  deriving DecidableEq, Repr

/-- Where the coroutine of a handshake is: at the query for the link address, in the
wait after a SYN+ACK, or at its end. -/
inductive HandshakeProgress where
  | querying (round : Nat)
  | waiting (round : Nat) (deadline : Instant)
  | timedOut
  deriving DecidableEq, Repr

/-- The next round of the loop, or its end. -/
def HandshakeProgress.begin (config : HandshakeConfig) (round : Nat) : HandshakeProgress :=
  if round < config.handshakeRetries then .querying round else .timedOut

/-- The coroutine `background`, with the numbers it is given. -/
structure HandshakeTask where
  localIsn : SeqNumber
  remoteIsn : SeqNumber
  progress : HandshakeProgress
  deriving DecidableEq, Repr

variable {κ ρ : Type} [CongestionControl κ] [RtoCalculator ρ]

/-- The SYN+ACK that answers a SYN. -/
def PassiveSocket.synAck (passive : PassiveSocket κ ρ) (config : HandshakeConfig)
    (task : HandshakeTask) (remote : SocketAddrV4) (remoteLinkAddr : MacAddress) : TcpSegment where
  dstLinkAddr := remoteLinkAddr
  srcLinkAddr := passive.localLinkAddr
  srcAddr := passive.localAddr.ip
  dstAddr := remote.ip
  tcpHdr := { TcpHeader.new passive.localAddr.port remote.port with
    syn := true
    seqNum := task.localIsn
    ack := true
    ackNum := task.remoteIsn + SeqNumber.ofU32 1
    windowSize := passive.tcpConfig.receiveWindowSize
    options := [.maximumSegmentSize (UInt16.ofNat config.advertisedMss),
      .windowScale passive.tcpConfig.windowScale] }
  data := none
  txChecksumOffload := passive.tcpConfig.rxChecksumOffload

/-- What the coroutine does from one wait to the next. Without an answer, or before
the deadline, it stays where it is. -/
def HandshakeTask.step (config : HandshakeConfig) (passive : PassiveSocket κ ρ)
    (remote : SocketAddrV4) (now : Instant) (arp : Option (Except Fail MacAddress))
    (task : HandshakeTask) : HandshakeTask × List TcpSegment :=
  match task.progress with
  | .querying round =>
    if round < config.handshakeRetries then
      match arp with
      | none => (task, [])
      | some (.error _) => ({ task with progress := .begin config (round + 1) }, [])
      | some (.ok remoteLinkAddr) =>
        ({ task with progress := .waiting round (now + config.handshakeTimeout) },
          [passive.synAck config task remote remoteLinkAddr])
    else ({ task with progress := .timedOut }, [])
  | .waiting round deadline =>
    if now < deadline then (task, [])
    else ({ task with progress := .begin config (round + 1) }, [])
  | .timedOut => (task, [])

namespace ReadySockets

omit [CongestionControl κ] [RtoCalculator ρ] in
/-- A push adds its connection at the end of the queue. -/
theorem pushOk_ready {sockets ready : ReadySockets κ ρ} {cb : ControlBlock κ ρ}
    (pushed : sockets.pushOk cb = .ok ready) : ready.ready = sockets.ready ++ [.ok cb] := by
  unfold pushOk at pushed
  split at pushed
  · cases pushed
  · cases pushed
    rfl

omit [CongestionControl κ] [RtoCalculator ρ] in
/-- A poll takes one connection or none. -/
theorem poll_length {waker : Waker} {sockets ready : ReadySockets κ ρ}
    {result : Option (Except Fail (ControlBlock κ ρ))}
    (polls : sockets.poll waker = .ok (ready, result)) :
    ready.ready.length = sockets.ready.length ∨ ready.ready.length + 1 = sockets.ready.length := by
  obtain ⟨-, -, same | ⟨fail, front⟩⟩ | ⟨cb, rest, -, front, rfl⟩ := Inner.poll_cases polls
  · exact .inl (by rw [same])
  · exact .inr (by rw [front, List.length_cons])
  · exact .inr (by rw [front, List.length_cons])

end ReadySockets

/-- A passive socket with the coroutines of its handshakes and what they have sent. -/
structure Listener (κ ρ : Type) where
  passive : PassiveSocket κ ρ
  tasks : Table SocketAddrV4 HandshakeTask
  config : HandshakeConfig
  transmitted : List TcpSegment

/-- What happens to a listening socket. -/
inductive ListenerAction (κ ρ : Type) where
  | segment (digest : UInt32) (ipHeader : Ipv4Header) (header : TcpHeader)
  | background (remote : SocketAddrV4) (now : Instant) (arp : Option (Except Fail MacAddress))
  | accept (waker : Waker)
  | migratedIn (cb : ControlBlock κ ρ)

namespace Listener

/-- The sender of a segment. -/
abbrev source (ipHeader : Ipv4Header) (header : TcpHeader) : SocketAddrV4 :=
  ⟨ipHeader.srcAddr, header.srcPort⟩

/-- The coroutine of a client lives as long as the entry that holds its handle. -/
def handles (before after : PassiveSocket κ ρ) (remote : SocketAddrV4)
    (tasks : Table SocketAddrV4 HandshakeTask) : Table SocketAddrV4 HandshakeTask :=
  match before.inflight.lookup remote, after.inflight.lookup remote with
  | none, some accept => tasks.insert remote ⟨accept.localIsn, accept.remoteIsn, .querying 0⟩
  | some _, none => tasks.erase remote
  | _, _ => tasks

/-- One action on a listening socket. -/
def step (profile : Profile) (listener : Listener κ ρ) :
    ListenerAction κ ρ → Checked (Listener κ ρ)
  | .segment digest ipHeader header => do
    let (passive, _) ← listener.passive.receive profile digest ipHeader header
    .ok { listener with
      passive
      tasks := handles listener.passive passive (source ipHeader header) listener.tasks }
  | .background remote now arp =>
    match listener.tasks.lookup remote with
    | none => .ok listener
    | some task =>
      let (task, sent) := task.step listener.config listener.passive remote now arp
      .ok { listener with
        tasks := listener.tasks.insert remote task
        transmitted := listener.transmitted ++ sent }
  | .accept waker => do
    let (ready, _) ← listener.passive.ready.poll waker
    .ok { listener with passive := { listener.passive with ready } }
  | .migratedIn cb => do
    let passive ← listener.passive.pushMigratedIn cb
    .ok { listener with passive }

/-- `PassiveSocket::new`. -/
def new (localAddr : SocketAddrV4) (maxBacklog : Nat) (tcpConfig : TcpConfig)
    (config : HandshakeConfig) (localLinkAddr : MacAddress) : Listener κ ρ where
  passive := .new localAddr maxBacklog tcpConfig localLinkAddr
  tasks := ∅
  config
  transmitted := []

/-- One transition of a listening socket. -/
abbrev Transition (κ ρ : Type) := Runs.Transition (Listener κ ρ) (ListenerAction κ ρ)

/-- The listening sockets that can be reached, each with its past. -/
abbrev Run (profile : Profile) (start : Listener κ ρ) := Runs.Run (step profile) start

/-- The entry for a SYN. -/
def entry (localIsn : SeqNumber) (header : TcpHeader) : InflightAccept where
  localIsn
  remoteIsn := header.seqNum
  headerWindowSize := header.windowSize
  remoteWindowScale := (announced header).1
  mss := (announced header).2

/-- A segment that starts a handshake. -/
def isSyn (header : TcpHeader) : Bool := header.syn && !header.ack && !header.rst

/-- What an action can do to the passive socket and the coroutines. -/
inductive Outcome (profile : Profile) (before : Listener κ ρ) :
    ListenerAction κ ρ → Listener κ ρ → Prop where
  /-- The segment is refused, or dropped because its connection waits to be accepted. -/
  | dropped {digest : UInt32} {ipHeader : Ipv4Header} {header : TcpHeader} :
      Outcome profile before (.segment digest ipHeader header) before
  /-- A SYN starts a handshake. -/
  | started {digest : UInt32} {ipHeader : Ipv4Header} {header : TcpHeader} {localIsn : SeqNumber}
      {isnGenerator : IsnGenerator}
      (unready : source ipHeader header ∉ before.passive.ready.endpoints)
      (absent : before.passive.inflight.lookup (source ipHeader header) = none)
      (syn : isSyn header = true)
      (room : before.passive.inflight.entries.length + before.passive.ready.ready.length <
        before.passive.maxBacklog) :
      Outcome profile before (.segment digest ipHeader header) { before with
        passive := { before.passive with
          inflight := before.passive.inflight.insert (source ipHeader header) (entry localIsn header)
          isnGenerator }
        tasks := before.tasks.insert (source ipHeader header)
          ⟨localIsn, header.seqNum, .querying 0⟩ }
  /-- The expected acknowledgement completes a handshake. -/
  | completed {digest : UInt32} {ipHeader : Ipv4Header} {header : TcpHeader}
      {inflight : InflightAccept} {cb : ControlBlock κ ρ} {ready : ReadySockets κ ρ}
      (waiting : before.passive.inflight.lookup (source ipHeader header) = some inflight)
      (acks : header.ack = true) (number : header.ackNum = inflight.localIsn + SeqNumber.ofU32 1)
      (opened : before.passive.opened (source ipHeader header) inflight = .ok cb)
      (pushed : before.passive.ready.pushOk cb = .ok ready) :
      Outcome profile before (.segment digest ipHeader header) { before with
        passive := { before.passive with
          inflight := before.passive.inflight.erase (source ipHeader header), ready }
        tasks := before.tasks.erase (source ipHeader header) }
  | idle {remote : SocketAddrV4} {now : Instant} {arp : Option (Except Fail MacAddress)}
      (ended : before.tasks.lookup remote = none) :
      Outcome profile before (.background remote now arp) before
  | progressed {remote : SocketAddrV4} {now : Instant} {arp : Option (Except Fail MacAddress)}
      {task : HandshakeTask} (running : before.tasks.lookup remote = some task) :
      Outcome profile before (.background remote now arp) { before with
        tasks := before.tasks.insert remote
          (task.step before.config before.passive remote now arp).1
        transmitted := before.transmitted ++
          (task.step before.config before.passive remote now arp).2 }
  | polled {waker : Waker} {ready : ReadySockets κ ρ}
      {result : Option (Except Fail (ControlBlock κ ρ))}
      (polls : before.passive.ready.poll waker = .ok (ready, result)) :
      Outcome profile before (.accept waker) { before with
        passive := { before.passive with ready } }
  | migrated {cb : ControlBlock κ ρ} {ready : ReadySockets κ ρ}
      (pushed : before.passive.ready.pushOk cb = .ok ready) :
      Outcome profile before (.migratedIn cb) { before with
        passive := { before.passive with ready } }

variable {profile : Profile} {listener listener' : Listener κ ρ}

omit [CongestionControl κ] [RtoCalculator ρ] in
/-- The coroutines are those of before if the entry of the client is. -/
theorem handles_same (before : PassiveSocket κ ρ) (remote : SocketAddrV4)
    (tasks : Table SocketAddrV4 HandshakeTask) : handles before before remote tasks = tasks := by
  unfold handles
  cases found : before.inflight.lookup remote with
  | none => rfl
  | some inflight => rfl

/-- What becomes of a segment. -/
theorem segment_outcome {digest : UInt32} {ipHeader : Ipv4Header} {header : TcpHeader}
    {passive : PassiveSocket κ ρ} {result : Except Fail Unit}
    (received : listener.passive.receive profile digest ipHeader header = .ok (passive, result)) :
    Outcome profile listener (.segment digest ipHeader header) { listener with
      passive
      tasks := handles listener.passive passive (source ipHeader header) listener.tasks } ∧
    (∀ fail, result = .error fail → passive = listener.passive) := by
  have unchanged : Outcome profile listener (.segment digest ipHeader header) { listener with
      passive := listener.passive
      tasks := handles listener.passive listener.passive (source ipHeader header)
        listener.tasks } := by
    rw [handles_same]
    exact .dropped
  unfold PassiveSocket.receive at received
  dsimp only at received
  split at received
  · cases received
    exact ⟨unchanged, fun _ _ => rfl⟩
  rename_i unready
  split at received
  · rename_i inflight waiting
    unfold PassiveSocket.receiveAck at received
    split at received
    · cases received
      exact ⟨unchanged, fun _ _ => rfl⟩
    rename_i acks
    split at received
    · cases received
      exact ⟨unchanged, fun _ _ => rfl⟩
    rename_i number
    obtain ⟨cb, opened, received⟩ := bind_ok.mp received
    obtain ⟨ready, pushed, received⟩ := bind_ok.mp received
    cases received
    have dropped : handles listener.passive { listener.passive with
        inflight := listener.passive.inflight.erase (source ipHeader header), ready }
        (source ipHeader header) listener.tasks = listener.tasks.erase (source ipHeader header) := by
      simp only [handles, waiting, AList.lookup_erase]
    refine ⟨?_, by simp⟩
    rw [dropped]
    exact .completed waiting (by simpa using acks) (by simpa using number) opened pushed
  · rename_i absent
    unfold PassiveSocket.receiveSyn at received
    split at received
    · cases received
      exact ⟨unchanged, fun _ _ => rfl⟩
    rename_i syn
    split at received
    · cases received
      exact ⟨unchanged, fun _ _ => rfl⟩
    rename_i room
    obtain ⟨⟨localIsn, isnGenerator⟩, -, received⟩ := bind_ok.mp received
    cases received
    have spawned : handles listener.passive { listener.passive with
        inflight := listener.passive.inflight.insert (source ipHeader header)
          (entry localIsn header), isnGenerator }
        (source ipHeader header) listener.tasks =
          listener.tasks.insert (source ipHeader header)
            ⟨localIsn, header.seqNum, .querying 0⟩ := by
      simp only [handles, absent, AList.lookup_insert, entry]
    refine ⟨?_, by simp⟩
    change Outcome profile listener (.segment digest ipHeader header) { listener with
      passive := { listener.passive with
        inflight := listener.passive.inflight.insert (source ipHeader header)
          (entry localIsn header), isnGenerator }
      tasks := handles listener.passive { listener.passive with
        inflight := listener.passive.inflight.insert (source ipHeader header)
          (entry localIsn header), isnGenerator } (source ipHeader header) listener.tasks }
    rw [spawned]
    refine .started unready absent ?_ (Nat.lt_of_not_le room)
    unfold isSyn
    revert syn
    cases header.syn <;> cases header.ack <;> cases header.rst <;> simp

/-- An action has one of the listed outcomes. -/
theorem step_outcome {action : ListenerAction κ ρ}
    (advanced : listener.step profile action = .ok listener') :
    Outcome profile listener action listener' := by
  cases action with
  | segment digest ipHeader header =>
    obtain ⟨⟨passive, result⟩, received, advanced⟩ := bind_ok.mp advanced
    cases advanced
    exact (segment_outcome received).1
  | background remote now arp =>
    unfold step at advanced
    dsimp only at advanced
    split at advanced
    · rename_i ended
      cases advanced
      exact .idle ended
    · rename_i task running
      cases advanced
      exact .progressed running
  | accept waker =>
    obtain ⟨⟨ready, result⟩, polls, advanced⟩ := bind_ok.mp advanced
    cases advanced
    exact .polled polls
  | migratedIn cb =>
    obtain ⟨passive, migratedIn, advanced⟩ := bind_ok.mp advanced
    cases advanced
    obtain ⟨ready, pushed, same⟩ := bind_ok.mp migratedIn
    cases same
    exact .migrated pushed

/-! ## Examples -/

/-- A socket that listens on port 80 with room for one connection. -/
def sample : Listener NoCongestionControl IntegerRto :=
  new ⟨0x0a000001#32, 80⟩ 1 .sample ⟨2, 1000, 1460⟩ 3#48

/-- The headers of a segment of a client, acknowledging this number if it has one. -/
def sampleHeader (syn rst : Bool) (ackNum : Option Nat) : TcpHeader :=
  { TcpHeader.new 4000 80 with
    syn, rst, seqNum := SeqNumber.ofU32 100, ack := ackNum.isSome
    ackNum := SeqNumber.ofU32 (ackNum.getD 0) }

/-- The arrival of such a segment. -/
def sampleSegment (syn rst : Bool) (ackNum : Option Nat) :
    ListenerAction NoCongestionControl IntegerRto :=
  .segment 7 ⟨0x0a000009#32, 0x0a000001#32⟩ (sampleHeader syn rst ackNum)

end Listener

end Capybara
