import Capybara.Ethernet2.Frame
import Capybara.Ip.Datagram
import Capybara.Lib.Tables
import Capybara.Tcp.SegmentCodec

/-!
# The software switch

`tcp/peer.rs`, built with `capybara-switch`. A bare SYN is forwarded to the backend whose
turn it is and enters its source into the directory. Any other segment is forwarded to the
backend of its source, if the directory knows it, or else sent on to its destination as if
it came from the switch. Whatever the directory does not provide for is a panic.

The network device and the cache of link addresses lie outside: a packet comes with what the
cache answers while the packet is handled, and what is transmitted is what `receive` returns.
The longest frame that the device receives is a parameter; `catnip` sets the device to DPDK's
`RTE_ETHER_MAX_JUMBO_FRAME_LEN`, or to the shorter `RTE_ETHER_MAX_LEN`.
-/

namespace Capybara

open Tables

/-- A TCP packet as the network layer passes it on. It came in one frame, which the network
device received because it was no longer than `max_rx_pkt_len`. -/
structure SwitchPacket (maxRxPktLen : Nat) where
  dstLinkAddr : MacAddress
  srcLinkAddr : MacAddress
  ipv4Hdr : Ipv4Header
  buf : Buffer
  /-- `ArpPeer::try_query` while the packet is handled. -/
  tryQuery : Ipv4Addr → Option MacAddress
  fits : ETHERNET2_HEADER_SIZE + IPV4_HEADER_MIN_SIZE + buf.length ≤ maxRxPktLen

variable {maxRxPktLen : Nat}

namespace SwitchPacket

/-- `src_addr`. -/
def srcAddr (packet : SwitchPacket maxRxPktLen) (tcpHdr : TcpHeader) : SocketAddrV4 :=
  ⟨packet.ipv4Hdr.srcAddr, tcpHdr.srcPort⟩

/-- `dst_addr`. -/
def dstAddr (packet : SwitchPacket maxRxPktLen) (tcpHdr : TcpHeader) : SocketAddrV4 :=
  ⟨packet.ipv4Hdr.destAddr, tcpHdr.dstPort⟩

/-- The segment made of the headers of the packet. -/
def segment (packet : SwitchPacket maxRxPktLen) (tcpHdr : TcpHeader) (data : Buffer)
    (txChecksumOffload : Bool) : TcpSegment where
  dstLinkAddr := packet.dstLinkAddr
  srcLinkAddr := packet.srcLinkAddr
  srcAddr := packet.ipv4Hdr.srcAddr
  dstAddr := packet.ipv4Hdr.destAddr
  tcpHdr
  data := some data
  txChecksumOffload

end SwitchPacket

/-- `set_dst_addr` of the frame and of the datagram, and `set_dst_port`. -/
def TcpSegment.setDst (segment : TcpSegment) (mac : MacAddress) (addr : SocketAddrV4) : TcpSegment :=
  { segment with
    dstLinkAddr := mac
    dstAddr := addr.ip
    tcpHdr := { segment.tcpHdr with dstPort := addr.port } }

/-- `set_src_addr` of the frame and of the datagram, and `set_src_port`. -/
def TcpSegment.setSrc (segment : TcpSegment) (mac : MacAddress) (addr : SocketAddrV4) : TcpSegment :=
  { segment with
    srcLinkAddr := mac
    srcAddr := addr.ip
    tcpHdr := { segment.tcpHdr with srcPort := addr.port } }

/-- The fields of `Inner` that the switch reads, and `BE_IDX`, which is a static of
`receive`. -/
structure SwitchPeer where
  localLinkAddr : MacAddress
  localIpv4Addr : Ipv4Addr
  /-- `tcp_config.get_rx_checksum_offload`. -/
  rxChecksumOffload : Bool
  backendServers : List SocketAddrV4
  numBackends : Nat
  migrationDirectory : Table SocketAddrV4 SocketAddrV4
  beIdx : Nat

namespace SwitchPeer

/-- The backends of `Inner::new`: four ports at 10.0.1.9. -/
def BACKEND_SERVERS : List SocketAddrV4 :=
  [⟨0x0A000109, 10000⟩, ⟨0x0A000109, 10001⟩, ⟨0x0A000109, 10002⟩, ⟨0x0A000109, 10003⟩]

/-- `Inner::new`. The number of backends is read from the environment. -/
def new (localLinkAddr : MacAddress) (localIpv4Addr : Ipv4Addr) (rxChecksumOffload : Bool)
    (numBackends : Nat) : SwitchPeer where
  localLinkAddr
  localIpv4Addr
  rxChecksumOffload
  backendServers := BACKEND_SERVERS
  numBackends
  migrationDirectory := ∅
  beIdx := 0

/-- The link address of a backend, which has to be cached. -/
def backendMac (packet : SwitchPacket maxRxPktLen) (backend : SocketAddrV4) : Checked MacAddress :=
  match packet.tryQuery backend.ip with
  | some mac => .ok mac
  | none => .error .backendNotCached

/-- The branch of `receive` for a bare SYN. -/
def receiveSyn (profile : Profile) (peer : SwitchPeer) (packet : SwitchPacket maxRxPktLen)
    (srcAddr : SocketAddrV4) (segment : TcpSegment) : Checked (SwitchPeer × TcpSegment) := do
  let backend ← (
    match peer.backendServers[peer.beIdx]? with
    | some backend => .ok backend
    | none => .error .sliceOutOfRange)
  let mac ← backendMac packet backend
  if (peer.migrationDirectory.lookup srcAddr).isSome then .error .duplicateClient
  else do
    let next ← addUsize profile peer.beIdx 1
    if peer.numBackends = 0 then .error .divisionByZero
    else .ok ({ peer with
      migrationDirectory := peer.migrationDirectory.insert srcAddr backend
      beIdx := next % peer.numBackends }, segment.setDst mac backend)

/-- The branch of `receive` for any other segment. -/
def receiveOther (peer : SwitchPeer) (packet : SwitchPacket maxRxPktLen) (srcAddr dstAddr : SocketAddrV4)
    (segment : TcpSegment) : Checked TcpSegment :=
  match peer.migrationDirectory.lookup srcAddr, peer.migrationDirectory.lookup dstAddr with
  | some target, none => do
    let mac ← backendMac packet target
    .ok (segment.setDst mac target)
  | none, some _ => .ok (segment.setSrc peer.localLinkAddr ⟨peer.localIpv4Addr, 10000⟩)
  | some _, some _ => .error .bothMatching
  | none, none => .error .noMatchingEntry

/-- `receive` behind the parser. -/
def receiveParsed (profile : Profile) (peer : SwitchPeer) (packet : SwitchPacket maxRxPktLen)
    (tcpHdr : TcpHeader) (data : Buffer) : Checked (SwitchPeer × TcpSegment) :=
  let dstAddr := packet.dstAddr tcpHdr
  let srcAddr := packet.srcAddr tcpHdr
  let segment := packet.segment tcpHdr data peer.rxChecksumOffload
  if tcpHdr.syn && !tcpHdr.ack then peer.receiveSyn profile packet srcAddr segment
  else do
    let segment ← peer.receiveOther packet srcAddr dstAddr segment
    .ok (peer, segment)

/-- `Inner::receive`, with the segment that is transmitted. -/
def receive (profile : Profile) (peer : SwitchPeer) (packet : SwitchPacket maxRxPktLen) :
    Checked (SwitchPeer × Except Fail TcpSegment) := do
  match ← TcpHeader.parse profile packet.ipv4Hdr packet.buf peer.rxChecksumOffload with
  | .error failure => .ok (peer, .error failure)
  | .ok (tcpHdr, data) => do
    let (peer, segment) ← peer.receiveParsed profile packet tcpHdr data
    .ok (peer, .ok segment)

end SwitchPeer

end Capybara
