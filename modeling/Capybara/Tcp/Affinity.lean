import Capybara.Lib.RoundRobin
import Capybara.Lib.Runs
import Capybara.Tcp.ParsedHeaders
import Capybara.Tcp.SwitchPeer

/-!
# Affinity of the software switch

Clients are the endpoints that have sent a bare SYN, in the order in which they first did,
and backends are assigned to them in turn. The switch owes every segment of a client to the
client's backend, and every other segment for a client to the client, with the switch as its
source and nothing else changed.

It does so as long as no client sends a second SYN, every other segment has a client at
exactly one of its ends, there is a backend for the turn of every client, and the options of
a segment do not fill the whole header.
-/

namespace Capybara

open Runs Tables Wire

variable {maxRxPktLen : Nat}

/-- The header and the payload of a packet, unless it is malformed. -/
def SwitchPacket.parsed (packet : SwitchPacket maxRxPktLen) (profile : Profile) (rxChecksumOffload : Bool) :
    Option (TcpHeader × Buffer) :=
  match TcpHeader.parse profile packet.ipv4Hdr packet.buf rxChecksumOffload with
  | .ok (.ok parsed) => some parsed
  | _ => none

/-- A SYN without acknowledgement. -/
def TcpHeader.bareSyn (tcpHdr : TcpHeader) : Bool := tcpHdr.syn && !tcpHdr.ack

namespace SwitchPeer

/-! ## What the switch owes -/

/-- The segment carries the packet to a backend. The backend finds the header, with its own port,
and the payload in the bytes that are written. -/
structure Forwarded (profile : Profile) (packet : SwitchPacket maxRxPktLen) (tcpHdr : TcpHeader)
    (data : Buffer) (backend : SocketAddrV4) (segment : TcpSegment) : Prop where
  linkAddr : packet.tryQuery backend.ip = some segment.dstLinkAddr
  addr : segment.dstAddr = backend.ip
  source : segment.srcAddr = packet.ipv4Hdr.srcAddr
  header : segment.tcpHdr = { tcpHdr with dstPort := backend.port }
  payload : segment.data = some data
  parsedBack : segment.tcpHdr.ParsedBack profile ⟨segment.srcAddr, segment.dstAddr⟩ data
    segment.txChecksumOffload

/-- The segment carries the packet to where it was sent, from the switch. The receiver finds the
header and the payload in the bytes that are written. -/
structure Replied (profile : Profile) (switch : SwitchPeer) (packet : SwitchPacket maxRxPktLen)
    (tcpHdr : TcpHeader) (data : Buffer) (segment : TcpSegment) : Prop where
  linkAddr : segment.srcLinkAddr = switch.localLinkAddr
  addr : segment.srcAddr = switch.localIpv4Addr
  destination : segment.dstAddr = packet.ipv4Hdr.destAddr
  header : segment.tcpHdr = { tcpHdr with srcPort := 10000 }
  payload : segment.data = some data
  parsedBack : segment.tcpHdr.ParsedBack profile ⟨segment.srcAddr, segment.dstAddr⟩ data
    segment.txChecksumOffload

/-- The clients after a packet, in the order of their first bare SYN. -/
def clientsAfter (profile : Profile) (switch : SwitchPeer) (clients : List SocketAddrV4)
    (packet : SwitchPacket maxRxPktLen) : List SocketAddrV4 :=
  match packet.parsed profile switch.rxChecksumOffload with
  | none => clients
  | some (tcpHdr, _) =>
    if tcpHdr.bareSyn ∧ packet.srcAddr tcpHdr ∉ clients then clients ++ [packet.srcAddr tcpHdr]
    else clients

/-- The answer to a packet is right, where the clients are those after the packet. -/
def Right (profile : Profile) (switch : SwitchPeer) (clients : List SocketAddrV4)
    (packet : SwitchPacket maxRxPktLen) (answer : Except Fail TcpSegment) : Prop :=
  ∀ tcpHdr data, packet.parsed profile switch.rxChecksumOffload = some (tcpHdr, data) →
    (packet.srcAddr tcpHdr ∈ clients → ∃ backend segment,
      RoundRobin.assigned switch.backendServers switch.numBackends clients
        (packet.srcAddr tcpHdr) = some backend ∧
      answer = .ok segment ∧ Forwarded profile packet tcpHdr data backend segment) ∧
    (packet.srcAddr tcpHdr ∉ clients → packet.dstAddr tcpHdr ∈ clients → ∃ segment,
      answer = .ok segment ∧ Replied profile switch packet tcpHdr data segment)

/-- No packet makes the switch panic, and every packet is answered rightly. -/
def Affine (profile : Profile) (switch : SwitchPeer) (packets : List (SwitchPacket maxRxPktLen)) : Prop :=
  Serves (receive profile) (clientsAfter profile switch) (Right profile switch) switch [] packets

/-! ## When it does -/

/-- What the directory provides for: a header that can be written, and a first SYN at whose turn
there is a backend or a segment between a client and someone who is none. -/
def Orderly (profile : Profile) (switch : SwitchPeer) (clients : List SocketAddrV4)
    (packet : SwitchPacket maxRxPktLen) : Prop :=
  ∀ parsed ∈ packet.parsed profile switch.rxChecksumOffload,
    parsed.1.computeSize ≤ MAX_TCP_HEADER_SIZE ∧
    if parsed.1.bareSyn then
      packet.srcAddr parsed.1 ∉ clients ∧
        clients.length % switch.numBackends < switch.backendServers.length
    else
      (packet.srcAddr parsed.1 ∈ clients ∧ packet.dstAddr parsed.1 ∉ clients) ∨
        (packet.srcAddr parsed.1 ∉ clients ∧ packet.dstAddr parsed.1 ∈ clients)

instance (profile : Profile) (switch : SwitchPeer) (clients : List SocketAddrV4)
    (packet : SwitchPacket maxRxPktLen) : Decidable (Orderly profile switch clients packet) :=
  inferInstanceAs (Decidable (∀ parsed ∈ packet.parsed profile switch.rxChecksumOffload,
    _ ∧ if parsed.1.bareSyn then _ else _))

/-- Every packet of a sequence is orderly. -/
def AllOrderly (profile : Profile) (switch : SwitchPeer) (packets : List (SwitchPacket maxRxPktLen)) : Prop :=
  Admits (clientsAfter profile switch) (Orderly profile switch) [] packets

instance (profile : Profile) (switch : SwitchPeer) (packets : List (SwitchPacket maxRxPktLen)) :
    Decidable (AllOrderly profile switch packets) :=
  inferInstanceAs (Decidable (Admits _ _ _ _))

/-! ## One packet -/

/-- A packet is refused as malformed, or parsed. -/
theorem receive_cases (profile : Profile) (peer : SwitchPeer) (packet : SwitchPacket maxRxPktLen)
    (limited : maxRxPktLen < 2 ^ 16) :
    (packet.parsed profile peer.rxChecksumOffload = none ∧
      ∃ failure, peer.receive profile packet = .ok (peer, .error failure)) ∨
    ∃ tcpHdr data, packet.parsed profile peer.rxChecksumOffload = some (tcpHdr, data) ∧
      tcpHdr.Parsed ∧ tcpHdr.computeSize + data.length < 2 ^ 16 ∧
      peer.receive profile packet = (do
        let (peer, segment) ← peer.receiveParsed profile packet tcpHdr data
        .ok (peer, .ok segment)) := by
  have short := packet.fits
  unfold ETHERNET2_HEADER_SIZE IPV4_HEADER_MIN_SIZE at short
  have fits : packet.buf.length < 2 ^ 16 := by omega
  obtain ⟨outcome, parsed⟩ := TcpHeader.parse_returns profile packet.ipv4Hdr fits
    peer.rxChecksumOffload
  unfold SwitchPacket.parsed receive
  rw [parsed]
  cases outcome with
  | error failure => exact .inl ⟨rfl, failure, rfl⟩
  | ok result =>
    obtain ⟨tcpHdr, data⟩ := result
    obtain ⟨wellFormed, longer⟩ := TcpHeader.parse_parsed parsed
    exact .inr ⟨tcpHdr, data, rfl, wellFormed, by omega, rfl⟩

/-- The directory knows exactly the clients, each with the backend assigned to it. -/
structure Directs (switch peer : SwitchPeer) (clients : List SocketAddrV4) : Prop where
  unchanged : peer = { switch with
    migrationDirectory := peer.migrationDirectory
    beIdx := clients.length % switch.numBackends }
  known : ∀ client ∈ clients, ∃ backend, peer.migrationDirectory.lookup client = some backend ∧
    RoundRobin.assigned switch.backendServers switch.numBackends clients client = some backend
  unknown : ∀ client ∉ clients, peer.migrationDirectory.lookup client = none

variable {profile : Profile} {switch peer : SwitchPeer} {packet : SwitchPacket maxRxPktLen}
  {clients : List SocketAddrV4} {tcpHdr : TcpHeader} {data : Buffer}

/-- The directory has an entry for exactly the clients that have sent a SYN. -/
theorem Directs.lookup_isSome (directs : Directs switch peer clients) (client : SocketAddrV4) :
    (peer.migrationDirectory.lookup client).isSome = decide (client ∈ clients) := by
  by_cases member : client ∈ clients
  · obtain ⟨backend, found, -⟩ := directs.known client member
    rw [found, decide_eq_true member]
    rfl
  · rw [directs.unknown client member, decide_eq_false member]
    rfl

/-- The link addresses of all backends that take turns are cached. -/
def Cached (switch : SwitchPeer) (packet : SwitchPacket maxRxPktLen) : Prop :=
  ∀ backend ∈ switch.backendServers.take switch.numBackends, (packet.tryQuery backend.ip).isSome

instance (switch : SwitchPeer) (packet : SwitchPacket maxRxPktLen) : Decidable (Cached switch packet) :=
  inferInstanceAs (Decidable (∀ backend ∈ switch.backendServers.take switch.numBackends, _))

/-- The link address of a backend in use is known. -/
theorem Cached.backendMac {switch : SwitchPeer} (cached : Cached switch packet)
    {backend : SocketAddrV4} (member : backend ∈ switch.backendServers.take switch.numBackends) :
    ∃ mac, packet.tryQuery backend.ip = some mac ∧ SwitchPeer.backendMac packet backend = .ok mac := by
  obtain ⟨mac, found⟩ := Option.isSome_iff_exists.mp (cached backend member)
  refine ⟨mac, found, ?_⟩
  rw [SwitchPeer.backendMac, found]

/-- A first SYN at whose turn there is a backend is forwarded to it. -/
theorem Directs.receiveSyn (directs : Directs switch peer clients) (cached : Cached switch packet)
    (configured : 0 < switch.numBackends) (few : switch.backendServers.length < 2 ^ 64)
    {srcAddr : SocketAddrV4} (absent : srcAddr ∉ clients)
    (turn : clients.length % switch.numBackends < switch.backendServers.length)
    (profile : Profile) (segment : TcpSegment) :
    ∃ peer' backend mac,
      peer.receiveSyn profile packet srcAddr segment = .ok (peer', segment.setDst mac backend) ∧
      packet.tryQuery backend.ip = some mac ∧
      RoundRobin.assigned switch.backendServers switch.numBackends (clients ++ [srcAddr]) srcAddr =
        some backend ∧
      Directs switch peer' (clients ++ [srcAddr]) := by
  have chosen := List.getElem?_eq_getElem turn
  generalize switch.backendServers[clients.length % switch.numBackends] = backend at chosen
  have assigned : RoundRobin.assigned switch.backendServers switch.numBackends
      (clients ++ [srcAddr]) srcAddr = some backend := (RoundRobin.assigned_new absent).trans chosen
  obtain ⟨mac, found, foundMac⟩ := cached.backendMac (RoundRobin.mem_of_assigned configured assigned)
  have next : addUsize profile (clients.length % switch.numBackends) 1 =
      .ok (clients.length % switch.numBackends + 1) := if_pos (by omega)
  have fresh := directs.unknown srcAddr absent
  refine ⟨{ peer with
    migrationDirectory := peer.migrationDirectory.insert srcAddr backend
    beIdx := (clients.length % switch.numBackends + 1) % switch.numBackends }, backend, mac,
    ?_, found, assigned, ?_, ?_, ?_⟩
  · unfold SwitchPeer.receiveSyn
    rw [fresh, directs.unchanged]
    simp only [chosen, foundMac, next, bind, Except.bind, Option.isSome_none, Bool.false_eq_true,
      if_false]
    exact if_neg (Nat.ne_of_gt configured)
  · rw [directs.unchanged, List.length_append, List.length_singleton, Nat.mod_add_mod]
  · intro client member
    dsimp only
    rw [Table.lookup_insert_eq]
    by_cases same : client = srcAddr
    · subst same
      exact ⟨backend, if_pos rfl, assigned⟩
    · have earlier : client ∈ clients := by simpa [same] using member
      obtain ⟨backend', known, assigned'⟩ := directs.known client earlier
      refine ⟨backend', ?_, (RoundRobin.assigned_append earlier _).trans assigned'⟩
      rw [if_neg same, known]
  · intro client other
    dsimp only
    have different : client ≠ srcAddr := by
      rintro rfl
      exact other (List.mem_append_right _ List.mem_cons_self)
    rw [Table.lookup_insert_eq, if_neg different]
    exact directs.unknown client fun member => other (List.mem_append_left _ member)

/-- Only a first SYN at whose turn there is a backend is not a panic. -/
theorem Directs.of_receiveSyn (directs : Directs switch peer clients) {srcAddr : SocketAddrV4}
    {segment : TcpSegment} {result : SwitchPeer × TcpSegment}
    (received : peer.receiveSyn profile packet srcAddr segment = .ok result) :
    srcAddr ∉ clients ∧ clients.length % switch.numBackends < switch.backendServers.length := by
  unfold SwitchPeer.receiveSyn at received
  obtain ⟨backend, chosen, received⟩ := bind_ok.mp received
  obtain ⟨mac, -, received⟩ := bind_ok.mp received
  rw [directs.lookup_isSome] at received
  constructor
  · intro member
    rw [decide_eq_true member] at received
    cases received
  · rw [directs.unchanged] at chosen
    by_contra none_
    dsimp only at chosen
    rw [List.getElem?_eq_none (Nat.le_of_not_lt none_)] at chosen
    cases chosen

/-- A segment of a client is forwarded to the client's backend. -/
theorem Directs.receiveOther_client (directs : Directs switch peer clients)
    (cached : Cached switch packet) (configured : 0 < switch.numBackends)
    {srcAddr dstAddr : SocketAddrV4} (client : srcAddr ∈ clients) (other : dstAddr ∉ clients)
    (segment : TcpSegment) :
    ∃ backend mac,
      peer.receiveOther packet srcAddr dstAddr segment = .ok (segment.setDst mac backend) ∧
      packet.tryQuery backend.ip = some mac ∧
      RoundRobin.assigned switch.backendServers switch.numBackends clients srcAddr =
        some backend := by
  obtain ⟨backend, known, assigned⟩ := directs.known srcAddr client
  obtain ⟨mac, found, foundMac⟩ := cached.backendMac (RoundRobin.mem_of_assigned configured assigned)
  refine ⟨backend, mac, ?_, found, assigned⟩
  unfold SwitchPeer.receiveOther
  rw [known, directs.unknown dstAddr other]
  dsimp only
  rw [foundMac]
  rfl

/-- Any other segment for a client goes on as if it came from the switch. -/
theorem Directs.receiveOther_reply (directs : Directs switch peer clients)
    {srcAddr dstAddr : SocketAddrV4} (other : srcAddr ∉ clients) (client : dstAddr ∈ clients)
    (segment : TcpSegment) :
    peer.receiveOther packet srcAddr dstAddr segment =
      .ok (segment.setSrc switch.localLinkAddr ⟨switch.localIpv4Addr, 10000⟩) := by
  obtain ⟨backend, known, -⟩ := directs.known dstAddr client
  unfold SwitchPeer.receiveOther
  rw [directs.unknown srcAddr other, known, directs.unchanged]

/-- Only a segment with a client at exactly one of its ends is not a panic. -/
theorem Directs.of_receiveOther (directs : Directs switch peer clients)
    {srcAddr dstAddr : SocketAddrV4} {segment result : TcpSegment}
    (received : peer.receiveOther packet srcAddr dstAddr segment = .ok result) :
    (srcAddr ∈ clients ∧ dstAddr ∉ clients) ∨ (srcAddr ∉ clients ∧ dstAddr ∈ clients) := by
  unfold SwitchPeer.receiveOther at received
  by_cases source : srcAddr ∈ clients
  · refine .inl ⟨source, fun dest => ?_⟩
    obtain ⟨_, known, -⟩ := directs.known srcAddr source
    obtain ⟨_, known', -⟩ := directs.known dstAddr dest
    rw [known, known'] at received
    cases received
  · refine .inr ⟨source, ?_⟩
    by_contra dest
    rw [directs.unknown srcAddr source, directs.unknown dstAddr dest] at received
    cases received

/-- A header that can be written is found again in what is forwarded. -/
theorem forwarded_setDst (parsed : tcpHdr.Parsed) (fits : tcpHdr.computeSize + data.length < 2 ^ 16)
    (small : tcpHdr.computeSize ≤ MAX_TCP_HEADER_SIZE) {backend : SocketAddrV4} {mac : MacAddress}
    (found : packet.tryQuery backend.ip = some mac) (offload : Bool) :
    Forwarded profile packet tcpHdr data backend
      ((packet.segment tcpHdr data offload).setDst mac backend) := by
  have renumbered : TcpHeader.Parsed { tcpHdr with dstPort := backend.port } := parsed
  exact ⟨found, rfl, rfl, rfl, rfl, (renumbered.parsedBack_iff profile _ offload fits).mpr small⟩

/-- A header that can be written is found again in a reply. -/
theorem replied_setSrc (parsed : tcpHdr.Parsed) (fits : tcpHdr.computeSize + data.length < 2 ^ 16)
    (small : tcpHdr.computeSize ≤ MAX_TCP_HEADER_SIZE) (offload : Bool) :
    Replied profile switch packet tcpHdr data ((packet.segment tcpHdr data offload).setSrc
      switch.localLinkAddr ⟨switch.localIpv4Addr, 10000⟩) := by
  have renumbered : TcpHeader.Parsed { tcpHdr with srcPort := 10000 } := parsed
  exact ⟨rfl, rfl, rfl, rfl, rfl, (renumbered.parsedBack_iff profile _ offload fits).mpr small⟩

/-- What has been forwarded rightly had a header that could be written. -/
theorem Forwarded.small {backend : SocketAddrV4} {segment : TcpSegment}
    (forwarded : Forwarded profile packet tcpHdr data backend segment) (parsed : tcpHdr.Parsed)
    (fits : tcpHdr.computeSize + data.length < 2 ^ 16) :
    tcpHdr.computeSize ≤ MAX_TCP_HEADER_SIZE := by
  have renumbered : TcpHeader.Parsed { tcpHdr with dstPort := backend.port } := parsed
  have back := forwarded.parsedBack
  rw [forwarded.header] at back
  exact (renumbered.parsedBack_iff profile _ _ fits).mp back

/-- What has been sent back rightly had a header that could be written. -/
theorem Replied.small {segment : TcpSegment}
    (replied : Replied profile switch packet tcpHdr data segment) (parsed : tcpHdr.Parsed)
    (fits : tcpHdr.computeSize + data.length < 2 ^ 16) :
    tcpHdr.computeSize ≤ MAX_TCP_HEADER_SIZE := by
  have renumbered : TcpHeader.Parsed { tcpHdr with srcPort := 10000 } := parsed
  have back := replied.parsedBack
  rw [replied.header] at back
  exact (renumbered.parsedBack_iff profile _ _ fits).mp back

/-! ## Every sequence of packets -/

/-- A packet that is not parsed makes nobody a client. -/
theorem clientsAfter_malformed (malformed : packet.parsed profile switch.rxChecksumOffload = none) :
    clientsAfter profile switch clients packet = clients := by
  rw [clientsAfter, malformed]

/-- A bare SYN makes its source a client, the last one. -/
theorem clientsAfter_syn (parsed : packet.parsed profile switch.rxChecksumOffload = some (tcpHdr, data))
    (syn : tcpHdr.bareSyn = true) (absent : packet.srcAddr tcpHdr ∉ clients) :
    clientsAfter profile switch clients packet = clients ++ [packet.srcAddr tcpHdr] := by
  rw [clientsAfter, parsed]
  exact if_pos ⟨syn, absent⟩

/-- No other packet makes anybody a client. -/
theorem clientsAfter_other
    (parsed : packet.parsed profile switch.rxChecksumOffload = some (tcpHdr, data))
    (other : ¬ tcpHdr.bareSyn = true) : clientsAfter profile switch clients packet = clients := by
  rw [clientsAfter, parsed]
  exact if_neg fun first => other first.1

/-- A bare SYN is assigned to a backend. -/
theorem receiveParsed_syn (syn : tcpHdr.bareSyn = true) :
    peer.receiveParsed profile packet tcpHdr data = peer.receiveSyn profile packet
      (packet.srcAddr tcpHdr) (packet.segment tcpHdr data peer.rxChecksumOffload) :=
  if_pos syn

/-- Any other packet is forwarded to the backend of its client, or is a reply. -/
theorem receiveParsed_other (other : ¬ tcpHdr.bareSyn = true) :
    peer.receiveParsed profile packet tcpHdr data = (do
      let segment ← peer.receiveOther packet (packet.srcAddr tcpHdr) (packet.dstAddr tcpHdr)
        (packet.segment tcpHdr data peer.rxChecksumOffload)
      .ok (peer, segment)) :=
  if_neg other

/-- A packet of a client is right if it is forwarded to the backend that round robin gives this
client. -/
theorem right_client {answer : Except Fail TcpSegment} {backend : SocketAddrV4}
    {segment : TcpSegment}
    (parsed : packet.parsed profile switch.rxChecksumOffload = some (tcpHdr, data))
    (client : packet.srcAddr tcpHdr ∈ clients)
    (assigned : RoundRobin.assigned switch.backendServers switch.numBackends clients
      (packet.srcAddr tcpHdr) = some backend)
    (answered : answer = .ok segment)
    (forwarded : Forwarded profile packet tcpHdr data backend segment) :
    Right profile switch clients packet answer := by
  intro tcpHdr' data' parsed'
  cases parsed.symm.trans parsed'
  exact ⟨fun _ => ⟨backend, segment, assigned, answered, forwarded⟩,
    fun other => absurd client other⟩

/-- Any other packet is right if it is a reply to its destination. -/
theorem right_reply {answer : Except Fail TcpSegment} {segment : TcpSegment}
    (parsed : packet.parsed profile switch.rxChecksumOffload = some (tcpHdr, data))
    (other : packet.srcAddr tcpHdr ∉ clients) (answered : answer = .ok segment)
    (replied : Replied profile switch packet tcpHdr data segment) :
    Right profile switch clients packet answer := by
  intro tcpHdr' data' parsed'
  cases parsed.symm.trans parsed'
  exact ⟨fun client => absurd client other, fun _ _ => ⟨segment, answered, replied⟩⟩

/-- An orderly packet is answered rightly, and the directory knows the clients after it. -/
theorem Directs.enough (directs : Directs switch peer clients) (cached : Cached switch packet)
    (configured : 0 < switch.numBackends) (few : switch.backendServers.length < 2 ^ 64)
    (limited : maxRxPktLen < 2 ^ 16) (orderly : Orderly profile switch clients packet) :
    ∃ peer' answer, peer.receive profile packet = .ok (peer', answer) ∧
      Right profile switch (clientsAfter profile switch clients packet) packet answer ∧
      Directs switch peer' (clientsAfter profile switch clients packet) := by
  have offload : peer.rxChecksumOffload = switch.rxChecksumOffload := by rw [directs.unchanged]
  obtain ⟨malformed, failure, received⟩ | ⟨tcpHdr, data, parsed, wellFormed, fits, received⟩ :=
    receive_cases profile peer packet limited
  · rw [offload] at malformed
    rw [clientsAfter_malformed malformed]
    refine ⟨peer, _, received, fun tcpHdr data parsed => ?_, directs⟩
    cases malformed.symm.trans parsed
  rw [offload] at parsed
  obtain ⟨small, meets⟩ := orderly _ parsed
  dsimp only at small meets
  by_cases syn : tcpHdr.bareSyn = true
  · rw [if_pos syn] at meets
    obtain ⟨absent, turn⟩ := meets
    obtain ⟨peer', backend, mac, forwarded, found, assigned, directs'⟩ := directs.receiveSyn cached
      configured few absent turn profile (packet.segment tcpHdr data peer.rxChecksumOffload)
    rw [clientsAfter_syn parsed syn absent]
    refine ⟨peer', _, ?_, right_client parsed (List.mem_append_right _ List.mem_cons_self)
      assigned rfl (forwarded_setDst wellFormed fits small found peer.rxChecksumOffload), directs'⟩
    rw [received, receiveParsed_syn syn, forwarded]
    rfl
  · rw [if_neg syn] at meets
    rw [clientsAfter_other parsed syn]
    obtain ⟨client, stranger⟩ | ⟨stranger, client⟩ := meets
    · obtain ⟨backend, mac, forwarded, found, assigned⟩ := directs.receiveOther_client cached
        configured client stranger (packet.segment tcpHdr data peer.rxChecksumOffload)
      refine ⟨peer, _, ?_, right_client parsed client assigned rfl
        (forwarded_setDst wellFormed fits small found peer.rxChecksumOffload), directs⟩
      rw [received, receiveParsed_other syn, forwarded]
      rfl
    · refine ⟨peer, _, ?_, right_reply parsed stranger rfl
        (replied_setSrc wellFormed fits small peer.rxChecksumOffload), directs⟩
      rw [received, receiveParsed_other syn, directs.receiveOther_reply stranger client]
      rfl

/-- A packet that is answered rightly is orderly. -/
theorem Directs.needed (directs : Directs switch peer clients) (limited : maxRxPktLen < 2 ^ 16)
    {peer' : SwitchPeer} {answer : Except Fail TcpSegment} (served : peer.receive profile packet = .ok (peer', answer))
    (right : Right profile switch (clientsAfter profile switch clients packet) packet answer) :
    Orderly profile switch clients packet := by
  have offload : peer.rxChecksumOffload = switch.rxChecksumOffload := by rw [directs.unchanged]
  rintro ⟨tcpHdr, data⟩ parsed
  have parsed : packet.parsed profile switch.rxChecksumOffload = some (tcpHdr, data) := parsed
  obtain ⟨malformed, -⟩ | ⟨tcpHdr', data', parsed', wellFormed, fits, received⟩ :=
    receive_cases profile peer packet limited
  · rw [offload, parsed] at malformed
    cases malformed
  rw [offload] at parsed'
  cases parsed.symm.trans parsed'
  obtain ⟨⟨peer'', segment⟩, treated, answered⟩ := bind_ok.mp (received.symm.trans served)
  cases answered
  dsimp only
  by_cases syn : tcpHdr.bareSyn = true
  · rw [receiveParsed_syn syn] at treated
    rw [if_pos syn]
    obtain ⟨absent, turn⟩ := directs.of_receiveSyn treated
    refine ⟨?_, absent, turn⟩
    rw [clientsAfter_syn parsed syn absent] at right
    obtain ⟨backend, _, -, same, forwarded⟩ :=
      (right tcpHdr data parsed).1 (List.mem_append_right _ List.mem_cons_self)
    cases same
    exact forwarded.small wellFormed fits
  · rw [receiveParsed_other syn] at treated
    rw [if_neg syn]
    rw [clientsAfter_other parsed syn] at right
    obtain ⟨segment', treated, same⟩ := bind_ok.mp treated
    cases same
    obtain ⟨client, stranger⟩ | ⟨stranger, client⟩ := directs.of_receiveOther treated
    · refine ⟨?_, .inl ⟨client, stranger⟩⟩
      obtain ⟨backend, _, -, same, forwarded⟩ := (right tcpHdr data parsed).1 client
      cases same
      exact forwarded.small wellFormed fits
    · refine ⟨?_, .inr ⟨stranger, client⟩⟩
      obtain ⟨_, same, replied⟩ := (right tcpHdr data parsed).2 stranger client
      cases same
      exact replied.small wellFormed fits

/-- A new switch has no clients, and begins with the first backend. -/
theorem directs_new (localLinkAddr : MacAddress) (localIpv4Addr : Ipv4Addr)
    (rxChecksumOffload : Bool) (numBackends : Nat) :
    Directs (new localLinkAddr localIpv4Addr rxChecksumOffload numBackends)
      (new localLinkAddr localIpv4Addr rxChecksumOffload numBackends) [] where
  unchanged := by
    rw [List.length_nil, Nat.zero_mod]
    rfl
  known := fun client member => absurd member List.not_mem_nil
  unknown := fun client _ => AList.lookup_empty client

/-- A segment without options between two endpoints, in a frame of at most 16128 bytes. -/
def samplePacket (source dest : SocketAddrV4) (flags : UInt8) (data : Buffer)
    (short : data.length ≤ 1000) : SwitchPacket 16128 where
  dstLinkAddr := 1
  srcLinkAddr := 2
  ipv4Hdr := ⟨source.ip, dest.ip⟩
  buf := bigEndian 2 source.port.toNat ++ bigEndian 2 dest.port.toNat ++
    [0, 0, 0, 1, 0, 0, 0, 2, 0x50, flags, 4, 0, 0, 0, 0, 0] ++ data
  tryQuery _ := some 3
  fits := by
    simp only [ETHERNET2_HEADER_SIZE, IPV4_HEADER_MIN_SIZE, List.length_append, List.length_cons,
      List.length_nil, bigEndian_length]
    omega

end SwitchPeer

end Capybara
