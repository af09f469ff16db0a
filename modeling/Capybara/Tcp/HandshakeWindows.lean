import Capybara.Tcp.Handshake

/-!
# The windows of a new connection

Both ends of a handshake turn a window and a scale of their own and those that the peer has
announced into the buffer and the windows of a control block. The client shifts both windows
as 16-bit values and asserts that the scales are at most 14; the server shifts the peer's
window as a 16-bit value, its own as a 32-bit one, and limits no scale.

So a scale beyond 14 is not limited but refused or used, and a window that grows out of 16
bits loses its upper bits without notice.
-/

namespace Capybara

open Tables

/-- The largest scale that is used. -/
def MAX_WINDOW_SCALE : Nat := 14

/-- The scale of the own window: none unless the peer announces one. -/
def localScale (config : TcpConfig) (announced : Option UInt8) : Nat :=
  match announced with
  | some _ => min config.windowScale.toNat MAX_WINDOW_SCALE
  | none => 0

/-- The scale of the peer's window. -/
def remoteScale (announced : Option UInt8) : Nat :=
  match announced with
  | some scale => min scale.toNat MAX_WINDOW_SCALE
  | none => 0

variable {κ ρ : Type} [CongestionControl κ] [RtoCalculator ρ]

/-- A control block whose scales are limited and whose windows are those of the two sides,
scaled as integers. -/
structure ExactWindows (config : TcpConfig) (window : UInt16) (announced : Option UInt8)
    (cb : ControlBlock κ ρ) : Prop where
  windowScale : cb.windowScale.toNat = localScale config announced
  senderScale : cb.sender.windowScale.toNat = remoteScale announced
  receiveBufferSize : cb.receiveBufferSize.toNat =
    config.receiveWindowSize.toNat * 2 ^ localScale config announced
  sendWindow : cb.sender.sendWindow.value.toNat = window.toNat * 2 ^ remoteScale announced

/-- What a server can open: scales that need not be limited and a window of the peer that stays
within 16 bits. -/
def FitsServer (config : TcpConfig) (window : UInt16) : Option UInt8 → Prop
  | none => True
  | some scale => config.windowScale.toNat ≤ MAX_WINDOW_SCALE ∧ scale.toNat ≤ MAX_WINDOW_SCALE ∧
    window.toNat * 2 ^ scale.toNat < 2 ^ 16

/-- What a client can open: its own window has to stay within 16 bits, too. -/
def FitsClient (config : TcpConfig) (window : UInt16) (announced : Option UInt8) : Prop :=
  FitsServer config window announced ∧
    (announced.isSome → config.receiveWindowSize.toNat * 2 ^ config.windowScale.toNat < 2 ^ 16)

/-! ## Shifts -/

/-- A 16-bit value that is shifted by at most 14 loses nothing exactly if the product stays
within 16 bits. -/
theorem checkedShlU16_exact {value : UInt16} {shift : Nat} (few : shift ≤ MAX_WINDOW_SCALE) :
    (∃ shifted, checkedShlU16 value shift = .ok shifted ∧
      shifted.toNat = value.toNat * 2 ^ shift) ↔ value.toNat * 2 ^ shift < 2 ^ 16 := by
  have within : shift < 16 := Nat.lt_of_le_of_lt few (by decide)
  have small : value.toNat * 2 ^ shift % 2 ^ 16 % 2 ^ 32 = value.toNat * 2 ^ shift % 2 ^ 16 :=
    Nat.mod_eq_of_lt (Nat.lt_trans (Nat.mod_lt _ (by decide)) (by decide))
  rw [checkedShlU16, if_pos within, Nat.shiftLeft_eq, ← Nat.mod_eq_iff_lt (by decide)]
  constructor
  · rintro ⟨shifted, shifts, same⟩
    cases shifts
    rwa [UInt32.toNat_ofNat', small] at same
  · intro same
    exact ⟨_, rfl, by rw [UInt32.toNat_ofNat', small, same]⟩

/-- A 16-bit value that is shifted as a 32-bit one by at most 14 loses nothing. -/
theorem checkedShlU32_eq {value : UInt16} {shift : Nat} (few : shift ≤ MAX_WINDOW_SCALE) :
    ∃ shifted, checkedShlU32 value.toNat shift = .ok shifted ∧
      shifted.toNat = value.toNat * 2 ^ shift := by
  have bound : value.toNat * 2 ^ shift < 2 ^ 32 := by
    calc value.toNat * 2 ^ shift
      _ ≤ value.toNat * 2 ^ 14 := Nat.mul_le_mul_left _ (Nat.pow_le_pow_right (by decide) few)
      _ < 2 ^ 32 := by
        have size := value.toNat_lt
        omega
  have within : shift < 32 := Nat.lt_of_le_of_lt few (by decide)
  refine ⟨_, if_pos within, ?_⟩
  rw [Nat.shiftLeft_eq, UInt32.toNat_ofNat', Nat.mod_mod, Nat.mod_eq_of_lt bound]

/-! ## Both ends -/

/-- Our own scale is limited. -/
theorem localScale_le (config : TcpConfig) (announced : Option UInt8) :
    localScale config announced ≤ MAX_WINDOW_SCALE := by
  cases announced with
  | none => exact Nat.zero_le _
  | some scale => exact Nat.min_le_right _ _

/-- So is that of the peer. -/
theorem remoteScale_le (announced : Option UInt8) : remoteScale announced ≤ MAX_WINDOW_SCALE := by
  cases announced with
  | none => exact Nat.zero_le _
  | some scale => exact Nat.min_le_right _ _

/-- What fits is what is scaled by limited scales and stays within 16 bits. -/
theorem fitsServer_iff {config : TcpConfig} {window : UInt16} {announced : Option UInt8} :
    FitsServer config window announced ↔
      (scales config announced).1.toNat = localScale config announced ∧
      (scales config announced).2.toNat = remoteScale announced ∧
      window.toNat * 2 ^ remoteScale announced < 2 ^ 16 := by
  cases announced with
  | none =>
    refine iff_of_true trivial ⟨rfl, rfl, ?_⟩
    rw [remoteScale, Nat.pow_zero, Nat.mul_one]
    exact window.toNat_lt
  | some scale =>
    simp only [FitsServer, scales, localScale, remoteScale, UInt8.toNat_toUInt32]
    constructor
    · rintro ⟨own, peers, fits⟩
      rw [Nat.min_eq_left own, Nat.min_eq_left peers]
      exact ⟨rfl, rfl, fits⟩
    · rintro ⟨own, peers, fits⟩
      rw [← peers] at fits
      exact ⟨own ▸ Nat.min_le_right _ _, peers ▸ Nat.min_le_right _ _, fits⟩

/-- What a client can open, with the scale that it will use itself. -/
theorem fitsClient_iff {config : TcpConfig} {window : UInt16} {announced : Option UInt8} :
    FitsClient config window announced ↔ FitsServer config window announced ∧
      config.receiveWindowSize.toNat * 2 ^ localScale config announced < 2 ^ 16 := by
  unfold FitsClient
  cases announced with
  | none =>
    refine and_congr_right fun _ => iff_of_true nofun ?_
    rw [localScale, Nat.pow_zero, Nat.mul_one]
    exact config.receiveWindowSize.toNat_lt
  | some scale =>
    refine and_congr_right fun ⟨own, _⟩ => ?_
    rw [localScale, Nat.min_eq_left own]
    exact ⟨fun fits => fits rfl, fun fits _ => fits⟩

/-- The control block of a server. -/
theorem PassiveSocket.opened_iff (passive : PassiveSocket κ ρ) (remote : SocketAddrV4)
    (inflight : InflightAccept) :
    (∃ cb, passive.opened remote inflight = .ok cb ∧
      ExactWindows passive.tcpConfig inflight.headerWindowSize inflight.remoteWindowScale cb) ↔
    FitsServer passive.tcpConfig inflight.headerWindowSize inflight.remoteWindowScale := by
  rw [fitsServer_iff, ← checkedShlU16_exact (remoteScale_le _)]
  unfold opened
  generalize scales passive.tcpConfig inflight.remoteWindowScale = used
  constructor
  · rintro ⟨cb, opens, exact_⟩
    obtain ⟨senderWindowSize, shifts, opens⟩ := bind_ok.mp opens
    obtain ⟨receiverWindowSize, -, opens⟩ := bind_ok.mp opens
    cases opens
    obtain ⟨windowScale, senderScale, -, sendWindow⟩ := exact_
    have peers : used.2.toNat = remoteScale inflight.remoteWindowScale := senderScale
    exact ⟨windowScale, peers, _, peers ▸ shifts, sendWindow⟩
  · rintro ⟨own, peers, senderWindowSize, shifts, sendWindow⟩
    obtain ⟨receiverWindowSize, shifts', receives⟩ :=
      @checkedShlU32_eq passive.tcpConfig.receiveWindowSize _ (localScale_le passive.tcpConfig
        inflight.remoteWindowScale)
    rw [← own] at shifts'
    rw [← peers] at shifts
    simp only [shifts, shifts', bind, Except.bind]
    exact ⟨_, rfl, own, peers, receives, sendWindow⟩

/-- The control block of a client. -/
theorem ActiveOpenSocket.opened_iff (socket : ActiveOpenSocket κ ρ) (header : TcpHeader) :
    (∃ cb, socket.opened header = .ok cb ∧
      ExactWindows socket.tcpConfig header.windowSize (announced header).1 cb) ↔
    FitsClient socket.tcpConfig header.windowSize (announced header).1 := by
  rw [fitsClient_iff, fitsServer_iff, ← checkedShlU16_exact (remoteScale_le _),
    ← checkedShlU16_exact (localScale_le _ _)]
  unfold opened
  dsimp only
  generalize scales socket.tcpConfig (announced header).1 = used
  have limited : used.1 ≤ 14 ∧ used.2 ≤ 14 ↔
      used.1.toNat ≤ MAX_WINDOW_SCALE ∧ used.2.toNat ≤ MAX_WINDOW_SCALE := Iff.rfl
  constructor
  · rintro ⟨cb, opens, exact_⟩
    split at opens
    · cases opens
    obtain ⟨receiverWindowSize, shifts', opens⟩ := bind_ok.mp opens
    obtain ⟨senderWindowSize, shifts, opens⟩ := bind_ok.mp opens
    cases opens
    obtain ⟨windowScale, senderScale, receives, sendWindow⟩ := exact_
    have own : used.1.toNat = localScale socket.tcpConfig (announced header).1 := windowScale
    have peers : used.2.toNat = remoteScale (announced header).1 := senderScale
    exact ⟨⟨own, peers, _, peers ▸ shifts, sendWindow⟩, _, own ▸ shifts', receives⟩
  · rintro ⟨⟨own, peers, senderWindowSize, shifts, sendWindow⟩, receiverWindowSize, shifts', receives⟩
    have small := limited.mpr ⟨own ▸ localScale_le _ _, peers ▸ remoteScale_le _⟩
    rw [← own] at shifts'
    rw [← peers] at shifts
    simp only [small, not_true_eq_false, and_self, if_false, shifts, shifts', bind, Except.bind]
    exact ⟨_, rfl, own, peers, receives, sendWindow⟩

/-! ## Handshakes -/

/-- The SYN+ACK that a client waits for, from a peer whose link address is known. -/
structure ActiveOpenSocket.Expects (env : Env) (socket : ActiveOpenSocket κ ρ) (header : TcpHeader) :
    Prop where
  ack : header.ack = true
  ackNum : header.ackNum = socket.localIsn + SeqNumber.ofU32 1
  rst : header.rst = false
  syn : header.syn = true
  resolved : env.linkAddr.isSome

/-- With it the client tries to build a control block. -/
theorem ActiveOpenSocket.receive_expected {env : Env} {socket : ActiveOpenSocket κ ρ}
    {header : TcpHeader} (expected : socket.Expects env header) :
    (∃ socket' sent cb, socket.receive env header = .ok (socket', sent) ∧
      socket'.result = some (.ok cb) ∧
      ExactWindows socket.tcpConfig header.windowSize (announced header).1 cb) ↔
    ∃ cb, socket.opened header = .ok cb ∧
      ExactWindows socket.tcpConfig header.windowSize (announced header).1 cb := by
  obtain ⟨ack, ackNum, rst, syn, resolved⟩ := expected
  obtain ⟨remoteLinkAddr, link⟩ := Option.isSome_iff_exists.mp resolved
  have tries : socket.receive env header = (do
      let cb ← socket.opened header
      .ok (socket.setResult (.ok cb), [socket.acknowledgement header remoteLinkAddr])) := by
    unfold receive
    rw [if_neg (not_not.mpr ⟨ack, ackNum⟩), rst, syn, link]
    rfl
  rw [tries]
  constructor
  · rintro ⟨socket', sent, cb, receives, result, exact_⟩
    obtain ⟨opened, opens, receives⟩ := bind_ok.mp receives
    cases receives
    cases result
    exact ⟨_, opens, exact_⟩
  · rintro ⟨cb, opens, exact_⟩
    rw [opens]
    exact ⟨_, _, cb, rfl, rfl, exact_⟩

namespace PassiveSocket

variable {profile : Profile} {digest digest' : UInt32} {passive passive' : PassiveSocket κ ρ}
  {ipHeader : Ipv4Header} {header : TcpHeader} {inflight : InflightAccept}

/-- A SYN that is taken is remembered with its window and its scale. -/
theorem receive_syn (fresh : passive.inflight.lookup ⟨ipHeader.srcAddr, header.srcPort⟩ = none)
    (idle : (⟨ipHeader.srcAddr, header.srcPort⟩ : SocketAddrV4) ∉ passive.ready.endpoints)
    (taken : passive.receive profile digest ipHeader header = .ok (passive', .ok ()))
    (found : passive'.inflight.lookup ⟨ipHeader.srcAddr, header.srcPort⟩ = some inflight) :
    passive'.ready = passive.ready ∧ passive'.tcpConfig = passive.tcpConfig ∧
      inflight.headerWindowSize = header.windowSize ∧
      inflight.remoteWindowScale = (announced header).1 := by
  unfold receive at taken
  dsimp only at taken
  rw [if_neg idle, fresh] at taken
  dsimp only at taken
  unfold receiveSyn at taken
  split at taken
  · cases taken
  split at taken
  · cases taken
  obtain ⟨⟨localIsn, isnGenerator⟩, -, taken⟩ := bind_ok.mp taken
  cases taken
  cases (AList.lookup_insert passive.inflight).symm.trans found
  exact ⟨rfl, rfl, rfl, rfl⟩

/-- With the acknowledgement that it waits for, the server tries to build a control block. -/
theorem receive_acknowledged
    (found : passive.inflight.lookup ⟨ipHeader.srcAddr, header.srcPort⟩ = some inflight)
    (idle : (⟨ipHeader.srcAddr, header.srcPort⟩ : SocketAddrV4) ∉ passive.ready.endpoints)
    (ack : header.ack = true) (ackNum : header.ackNum = inflight.localIsn + SeqNumber.ofU32 1)
    (property : ControlBlock κ ρ → Prop) :
    (∃ passive' cb, passive.receive profile digest ipHeader header = .ok (passive', .ok ()) ∧
      passive'.ready.ready = passive.ready.ready ++ [.ok cb] ∧ property cb) ↔
    ∃ cb, passive.opened ⟨ipHeader.srcAddr, header.srcPort⟩ inflight = .ok cb ∧ property cb := by
  have tries : passive.receive profile digest ipHeader header = (do
      let cb ← passive.opened ⟨ipHeader.srcAddr, header.srcPort⟩ inflight
      let ready ← passive.ready.pushOk cb
      .ok ({ passive with
        inflight := passive.inflight.erase ⟨ipHeader.srcAddr, header.srcPort⟩, ready }, .ok ())) := by
    unfold receive receiveAck
    dsimp only
    rw [if_neg idle, found]
    dsimp only
    rw [ack, if_neg (not_not.mpr ackNum)]
    rfl
  have pushes {cb : ControlBlock κ ρ}
      (opens : passive.opened ⟨ipHeader.srcAddr, header.srcPort⟩ inflight = .ok cb) :
      ∃ ready, passive.ready.pushOk cb = .ok ready ∧
        ready.ready = passive.ready.ready ++ [.ok cb] := by
    have remote : cb.remote = ⟨ipHeader.srcAddr, header.srcPort⟩ := by
      obtain ⟨_, -, opens⟩ := bind_ok.mp opens
      obtain ⟨_, -, opens⟩ := bind_ok.mp opens
      cases opens
      rfl
    rw [ReadySockets.pushOk, remote, if_neg idle]
    exact ⟨_, rfl, rfl⟩
  rw [tries]
  constructor
  · rintro ⟨passive', cb, receives, queued, holds⟩
    obtain ⟨opened, opens, receives⟩ := bind_ok.mp receives
    obtain ⟨ready, pushed, receives⟩ := bind_ok.mp receives
    obtain ⟨_, pushed', behind⟩ := pushes opens
    cases pushed.symm.trans pushed'
    cases receives
    have same : passive.ready.ready ++ [.ok opened] = passive.ready.ready ++ [.ok cb] :=
      behind.symm.trans queued
    cases List.append_cancel_left same
    exact ⟨cb, opens, holds⟩
  · rintro ⟨cb, opens, holds⟩
    obtain ⟨ready, pushed, behind⟩ := pushes opens
    rw [opens]
    simp only [bind, Except.bind, pushed]
    exact ⟨_, cb, rfl, behind, holds⟩

end PassiveSocket

/-- The windows of a handshake. A client that receives the SYN+ACK it waits for, and a server
that has taken a SYN and receives the acknowledgement it waits for, build a control block
with the exact windows and limited scales exactly if those fit: the peer announces no scale,
or both scales are at most 14 and the windows that are shifted as 16-bit values stay within
16 bits.

Proof: for each side the segment that it waits for is followed into the control block
that it builds, whose windows and scales are computed from the announced ones. They are
exact exactly if no shift loses a bit and no scale is cut. -/
theorem handshake_windows_iff {env : Env} {client : ActiveOpenSocket κ ρ} {synAck : TcpHeader}
    (expected : client.Expects env synAck) {profile : Profile} {digest digest' : UInt32}
    {server server' : PassiveSocket κ ρ} {ipHeader ipHeader' : Ipv4Header} {syn ack : TcpHeader}
    {inflight : InflightAccept}
    (fresh : server.inflight.lookup ⟨ipHeader.srcAddr, syn.srcPort⟩ = none)
    (idle : (⟨ipHeader.srcAddr, syn.srcPort⟩ : SocketAddrV4) ∉ server.ready.endpoints)
    (taken : server.receive profile digest ipHeader syn = .ok (server', .ok ()))
    (found : server'.inflight.lookup ⟨ipHeader.srcAddr, syn.srcPort⟩ = some inflight)
    (same : ipHeader'.srcAddr = ipHeader.srcAddr) (samePort : ack.srcPort = syn.srcPort)
    (acknowledges : ack.ack = true) (ackNum : ack.ackNum = inflight.localIsn + SeqNumber.ofU32 1) :
    ((∃ client' sent cb, client.receive env synAck = .ok (client', sent) ∧
        client'.result = some (.ok cb) ∧
        ExactWindows client.tcpConfig synAck.windowSize (announced synAck).1 cb) ↔
      FitsClient client.tcpConfig synAck.windowSize (announced synAck).1) ∧
    ((∃ opened cb, server'.receive profile digest' ipHeader' ack = .ok (opened, .ok ()) ∧
        opened.ready.ready = server'.ready.ready ++ [.ok cb] ∧
        ExactWindows server.tcpConfig syn.windowSize (announced syn).1 cb) ↔
      FitsServer server.tcpConfig syn.windowSize (announced syn).1) := by
  obtain ⟨ready, config, window, scale⟩ := PassiveSocket.receive_syn fresh idle taken found
  rw [← samePort, ← same] at found idle
  rw [← ready] at idle
  refine ⟨(ActiveOpenSocket.receive_expected expected).trans (client.opened_iff synAck), ?_⟩
  rw [← config, ← window, ← scale]
  exact (PassiveSocket.receive_acknowledged found idle acknowledges ackNum _).trans
    (server'.opened_iff _ inflight)

/-- A configuration with a given window and scale. -/
def scaledConfig (receiveWindowSize : UInt16) (windowScale : UInt8) : TcpConfig :=
  ⟨receiveWindowSize, windowScale, 5, false, false⟩

/-- A client and a server of a configuration, before the handshake. -/
def scaledClient (config : TcpConfig) : ActiveOpenSocket NoCongestionControl IntegerRto :=
  .new (SeqNumber.ofU32 7) ⟨1#32, 80⟩ ⟨2#32, 81⟩ config 3#48

/-- A server of a configuration, before the handshake. -/
def scaledServer (config : TcpConfig) : PassiveSocket NoCongestionControl IntegerRto :=
  .new ⟨2#32, 81⟩ 4 config 3#48

/-- A segment that opens a connection, with the window and the scale that it announces. -/
def opening (ack : Option Nat) (windowSize : UInt16) (announced : Option UInt8) : TcpHeader :=
  { TcpHeader.new 80 81 with
    syn := true, ack := ack.isSome, ackNum := SeqNumber.ofU32 (ack.getD 0), windowSize,
    options := announced.toList.map .windowScale }

/-- The acknowledgement of a SYN+ACK. -/
def acknowledging (ackNum : SeqNumber) : TcpHeader :=
  { TcpHeader.new 80 81 with ack := true, ackNum }

/-- Both sides scale: a buffer of 1000 bytes is announced eight times as large, and a window
of 500 of the peer stands for 2000 bytes. -/
theorem handshake_windows_scaled :
    ∃ server' inflight, (scaledServer (scaledConfig 1000 3)).receive .dev 0 ⟨1#32, 2#32⟩
          (opening none 500 (some 2)) = .ok (server', .ok ()) ∧
      server'.inflight.lookup ⟨1#32, 80⟩ = some inflight ∧
      (∃ client' sent cb, (scaledClient (scaledConfig 1000 3)).receive ⟨0, some 4#48⟩
          (opening (some 8) 500 (some 2)) = .ok (client', sent) ∧
        client'.result = some (.ok cb) ∧ ExactWindows (scaledConfig 1000 3) 500 (some 2) cb) ∧
      ∃ opened cb, server'.receive .dev 0 ⟨1#32, 2#32⟩
          (acknowledging (inflight.localIsn + SeqNumber.ofU32 1)) = .ok (opened, .ok ()) ∧
        opened.ready.ready = server'.ready.ready ++ [.ok cb] ∧
        ExactWindows (scaledConfig 1000 3) 500 (some 2) cb := by
  have requested : ∃ server' inflight, (scaledServer (scaledConfig 1000 3)).receive .dev 0
      ⟨1#32, 2#32⟩ (opening none 500 (some 2)) = .ok (server', .ok ()) ∧
      server'.inflight.lookup ⟨1#32, 80⟩ = some inflight := ⟨_, _, rfl, rfl⟩
  obtain ⟨server', inflight, taken, found⟩ := requested
  have expected : (scaledClient (scaledConfig 1000 3)).Expects ⟨0, some 4#48⟩
      (opening (some 8) 500 (some 2)) := ⟨rfl, by decide, rfl, rfl, rfl⟩
  obtain ⟨client, server⟩ := @handshake_windows_iff _ _ _ _ _ _ _ expected _ _ 0 _ _ _ ⟨1#32, 2#32⟩ _
    (acknowledging (inflight.localIsn + SeqNumber.ofU32 1)) _ rfl (by decide) taken found rfl rfl rfl
    rfl
  have fits : FitsServer (scaledConfig 1000 3) 500 (some 2) :=
    ⟨by decide, by decide, by decide⟩
  exact ⟨server', inflight, taken, found, client.mpr ⟨fits, fun _ => by decide⟩, server.mpr fits⟩

/-- With a scale of one on both sides the client loses the upper bit of both windows: its
buffer is half the size of the server's. A scale of 15 makes it panic. -/
theorem not_exact_windows :
    (¬ ∃ client' sent cb, (scaledClient (scaledConfig 0xffff 1)).receive ⟨0, some 4#48⟩
        (opening (some 8) 0xffff (some 1)) = .ok (client', sent) ∧
      client'.result = some (.ok cb) ∧
      ExactWindows (scaledConfig 0xffff 1) 0xffff (some 1) cb) ∧
    (scaledClient (scaledConfig 0xffff 1)).receive ⟨0, some 4#48⟩
      (opening (some 8) 0xffff (some 15)) = .error .windowScaleTooBig := by
  refine ⟨?_, rfl⟩
  rintro ⟨client', sent, cb, receives, result, -, -, receiveBufferSize, -⟩
  cases receives
  cases result
  exact absurd receiveBufferSize (by decide)

end Capybara
