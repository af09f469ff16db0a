import Capybara.Tcp.Listener

/-!
# A connecting socket and its SYNs

`active_open.rs` as one system. The coroutine of a connecting socket sends the SYN, waits,
and repeats it until the retries are used up, when it reports a timeout in place of whatever
has been reported before. The SYN+ACK that the socket waits for is acknowledged each time it
arrives, and a control block for it replaces the result.

The time that passes and the answers of the address resolution are inputs.
-/

namespace Capybara

open Runs

variable {κ ρ : Type}

/-- The header of the SYN that opens a connection. -/
def synHeader (localAddr remote : SocketAddrV4) (localIsn : SeqNumber) (tcpConfig : TcpConfig)
    (config : HandshakeConfig) : TcpHeader :=
  { TcpHeader.new localAddr.port remote.port with
    syn := true
    seqNum := localIsn
    windowSize := tcpConfig.receiveWindowSize
    options := [.maximumSegmentSize (UInt16.ofNat config.advertisedMss),
      .windowScale tcpConfig.windowScale] }

/-- The SYN of a connecting socket. -/
def ActiveOpenSocket.syn (socket : ActiveOpenSocket κ ρ) (config : HandshakeConfig)
    (remoteLinkAddr : MacAddress) : TcpSegment where
  dstLinkAddr := remoteLinkAddr
  srcLinkAddr := socket.localLinkAddr
  srcAddr := socket.localAddr.ip
  dstAddr := socket.remote.ip
  tcpHdr := synHeader socket.localAddr socket.remote socket.localIsn socket.tcpConfig config
  data := none
  txChecksumOffload := socket.tcpConfig.rxChecksumOffload

/-- A connecting socket with its coroutine `background` and what has been sent. -/
structure Opening (κ ρ : Type) where
  socket : ActiveOpenSocket κ ρ
  progress : HandshakeProgress
  config : HandshakeConfig
  transmitted : List TcpSegment

namespace Opening

/-- `ActiveOpenSocket::new`. -/
def new (localIsn : SeqNumber) (localAddr remote : SocketAddrV4) (tcpConfig : TcpConfig)
    (config : HandshakeConfig) (localLinkAddr : MacAddress) : Opening κ ρ where
  socket := .new localIsn localAddr remote tcpConfig localLinkAddr
  progress := .querying 0
  config
  transmitted := []

/-- The loop goes on with a round, or ends with the timeout. -/
def beginRound (opening : Opening κ ρ) (round : Nat) : Opening κ ρ :=
  match HandshakeProgress.begin opening.config round with
  | .timedOut => { opening with progress := .timedOut, socket := opening.socket.timeout }
  | progress => { opening with progress }

/-- What the coroutine does from one wait to the next. Without an answer, or before the
deadline, it stays where it is. -/
def background (now : Instant) (arp : Option (Except Fail MacAddress)) (opening : Opening κ ρ) :
    Opening κ ρ :=
  match opening.progress with
  | .querying round =>
    if round < opening.config.handshakeRetries then
      match arp with
      | none => opening
      | some (.error _) => opening.beginRound (round + 1)
      | some (.ok remoteLinkAddr) =>
        { opening with
          progress := .waiting round (now + opening.config.handshakeTimeout)
          transmitted := opening.transmitted ++ [opening.socket.syn opening.config remoteLinkAddr] }
    else { opening with progress := .timedOut, socket := opening.socket.timeout }
  | .waiting round deadline =>
    if now < deadline then opening else opening.beginRound (round + 1)
  | .timedOut => opening

variable [CongestionControl κ] [RtoCalculator ρ]

/-- A segment arrives. -/
def receive (env : Env) (header : TcpHeader) (opening : Opening κ ρ) : Checked (Opening κ ρ) := do
  let (socket, sent) ← opening.socket.receive env header
  .ok { opening with socket, transmitted := opening.transmitted ++ sent }

/-! ## What each part can do -/

omit [CongestionControl κ] [RtoCalculator ρ] in
/-- A round of the opening goes on, or the time is over and the socket has its error. -/
theorem beginRound_cases (opening : Opening κ ρ) (round : Nat) :
    (∃ progress, opening.beginRound round = { opening with progress }) ∨
    opening.beginRound round =
      { opening with progress := .timedOut, socket := opening.socket.timeout } := by
  unfold beginRound
  split
  · exact .inr rfl
  · exact .inl ⟨_, rfl⟩

omit [CongestionControl κ] [RtoCalculator ρ] in
/-- The coroutine sends a SYN, reports the timeout or does neither. -/
theorem background_cases (now : Instant) (arp : Option (Except Fail MacAddress))
    (opening : Opening κ ρ) :
    (∃ progress, opening.background now arp = { opening with progress }) ∨
    (∃ progress remoteLinkAddr, opening.background now arp = { opening with
      progress
      transmitted := opening.transmitted ++ [opening.socket.syn opening.config remoteLinkAddr] }) ∨
    opening.background now arp =
      { opening with progress := .timedOut, socket := opening.socket.timeout } := by
  have next (round : Nat) := opening.beginRound_cases round
  unfold background
  split
  · rename_i round waits
    split
    · split
      · exact .inl ⟨opening.progress, rfl⟩
      · exact (next (round + 1)).imp_right .inr
      · exact .inr (.inl ⟨_, _, rfl⟩)
    · exact .inr (.inr rfl)
  · rename_i round deadline waits
    split
    · exact .inl ⟨opening.progress, rfl⟩
    · exact (next (round + 1)).imp_right .inr
  · exact .inl ⟨opening.progress, rfl⟩

/-- A segment is ignored, refuses the connection, or is the expected SYN+ACK. -/
theorem receive_cases {env : Env} {header : TcpHeader} {opening opening' : Opening κ ρ}
    (receives : opening.receive env header = .ok opening') :
    opening' = opening ∨
    (∃ fail, opening' = { opening with socket := opening.socket.setResult (.error fail) }) ∨
    ∃ cb remoteLinkAddr, header.ack = true ∧
      header.ackNum = opening.socket.localIsn + SeqNumber.ofU32 1 ∧ header.rst = false ∧
      header.syn = true ∧ opening.socket.opened header = .ok cb ∧ opening' = { opening with
        socket := opening.socket.setResult (.ok cb)
        transmitted := opening.transmitted ++
          [opening.socket.acknowledgement header remoteLinkAddr] } := by
  obtain ⟨⟨socket, sent⟩, received, rest⟩ := bind_ok.mp receives
  cases rest
  unfold ActiveOpenSocket.receive at received
  split at received
  · cases received
    exact .inl (by rw [List.append_nil])
  rename_i expected
  obtain ⟨ack, ackNum⟩ := not_not.mp expected
  split at received
  · cases received
    exact .inr (.inl ⟨_, by rw [List.append_nil]⟩)
  rename_i quiet
  split at received
  · cases received
    exact .inl (by rw [List.append_nil])
  rename_i syn
  split at received
  · cases received
  obtain ⟨cb, opened, received⟩ := bind_ok.mp received
  cases received
  exact .inr (.inr ⟨cb, _, ack, ackNum, Bool.eq_false_iff.mpr quiet, by simpa using syn, opened, rfl⟩)

end Opening

end Capybara
