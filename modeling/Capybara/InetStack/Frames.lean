import Capybara.Arp.PacketCodec
import Capybara.Icmpv4.Header
import Capybara.Tcp.Reencoding
import Capybara.TcpMig.HeaderCodec

/-!
# Frames that leave a stack and come in

What the protocols hand to the network runtime is a packet, which writes its headers into a
buffer and may have a body. The runtime puts the body behind the headers and fills short frames
up with zeros. On the other side `do_receive` and `Peer::receive` parse one header after the
other and give what is left to the peer of a protocol. That peer parses its own header first,
which is part of the way of a frame.

All packets over IPv4 are written in the same way, each into its own part of the buffer.
-/

namespace Capybara

open Wire TcpMigHeader TcpPacketBuf

/-- `MIN_PAYLOAD_SIZE`. -/
def MIN_PAYLOAD_SIZE : Nat := 46

/-- `RPS_SIGNAL_HEADER_SIZE`. -/
def RPS_SIGNAL_HEADER_SIZE : Nat := 20

/-- `RPS_SIGNAL_SIGNATURE`. -/
def RPS_SIGNAL_SIGNATURE : Nat := 0xABCDABCD

/-! ## Packets -/

/-- `UdpDatagram`, with the fields of the link and network headers that `do_send` fills in. -/
structure UdpDatagram where
  dstLinkAddr : MacAddress
  srcLinkAddr : MacAddress
  ipv4Hdr : Ipv4Header
  udpHdr : UdpHeader
  data : Buffer
  checksumOffload : Bool
  deriving DecidableEq, Repr

/-- `Icmpv4Message`, with the fields of the link and network headers that the peer fills in. -/
structure Icmpv4Message where
  dstLinkAddr : MacAddress
  srcLinkAddr : MacAddress
  ipv4Hdr : Ipv4Header
  icmpv4Hdr : Icmpv4Header
  deriving DecidableEq, Repr

/-- What a stack transmits. -/
inductive Packet where
  | arp (message : ArpMessage)
  | icmpv4 (message : Icmpv4Message)
  | tcp (segment : TcpSegment)
  | tcpmig (segment : TcpMigSegment)
  | udp (datagram : UdpDatagram)
  deriving DecidableEq, Repr

/-- A header for a frame with an IPv4 datagram. -/
def Ethernet2Header.forIpv4 (dstAddr srcAddr : MacAddress) : Ethernet2Header :=
  ⟨dstAddr, srcAddr, .ipv4⟩

/-- `Ipv4Header::new`, from the two addresses. -/
def Ipv4Header.datagramHeader (ipv4Hdr : Ipv4Header) (protocol : IpProtocol) : Ipv4DatagramHeader :=
  .new ipv4Hdr.srcAddr ipv4Hdr.destAddr protocol

/-- `TcpSegment`, with its headers in full. -/
def TcpSegment.packetBuf (segment : TcpSegment) : TcpPacketBuf where
  ethernet2Hdr := .forIpv4 segment.dstLinkAddr segment.srcLinkAddr
  ipv4Hdr := .new segment.srcAddr segment.dstAddr .tcp
  tcpHdr := segment.tcpHdr
  data := segment.data
  txChecksumOffload := segment.txChecksumOffload

/-- `write_header` of the packets over IPv4, from what their transport header occupies, how long
the body is and how that header is serialised. -/
def writeOverIpv4 (profile : Profile) (ethernet2Hdr : Ethernet2Header)
    (ipv4Hdr : Ipv4DatagramHeader) (hdrSize bodySize : Nat) (serialize : Buffer → Checked Buffer)
    (buf : Buffer) : Checked Buffer := do
  let ethHdrSize := ethernet2Hdr.computeSize
  let ipv4HdrSize := ipv4Hdr.computeSize
  let ethernetBuf ← slice buf 0 ethHdrSize
  let ethernet ← ethernet2Hdr.serialize ethernetBuf
  let ipv4Buf ← slice buf ethHdrSize ipv4HdrSize
  let ipv4 ← ipv4Hdr.serialize profile ipv4Buf (hdrSize + bodySize)
  let hdrBuf ← slice buf (ethHdrSize + ipv4HdrSize) hdrSize
  let transport ← serialize hdrBuf
  .ok (ethernet ++ ipv4 ++ transport ++ buf.drop (ethHdrSize + ipv4HdrSize + hdrSize))

/-- `write_header` of a `UdpDatagram`. -/
def UdpDatagram.writeHeader (profile : Profile) (datagram : UdpDatagram) : Buffer → Checked Buffer :=
  writeOverIpv4 profile (.forIpv4 datagram.dstLinkAddr datagram.srcLinkAddr)
    (datagram.ipv4Hdr.datagramHeader .udp) UDP_HEADER_SIZE datagram.data.length fun buf =>
      datagram.udpHdr.serialize profile buf datagram.ipv4Hdr datagram.data datagram.checksumOffload

/-- `write_header` of a `TcpMigSegment`. -/
def TcpMigSegment.writeHeader (profile : Profile) (segment : TcpMigSegment) :
    Buffer → Checked Buffer :=
  writeOverIpv4 profile (.forIpv4 segment.dstLinkAddr segment.srcLinkAddr)
    (segment.ipv4Hdr.datagramHeader .udp) TCPMIG_HEADER_SIZE segment.data.length fun buf =>
      segment.tcpmigHdr.serializeInto buf segment.ipv4Hdr segment.data

/-- `write_header` of an `Icmpv4Message`. -/
def Icmpv4Message.writeHeader (profile : Profile) (message : Icmpv4Message) :
    Buffer → Checked Buffer :=
  writeOverIpv4 profile (.forIpv4 message.dstLinkAddr message.srcLinkAddr)
    (message.ipv4Hdr.datagramHeader .icmpv4) ICMPV4_HEADER_SIZE 0
      (message.icmpv4Hdr.serialize profile)

/-- The link header of an ARP message. -/
def ArpMessage.ethernet2Hdr (message : ArpMessage) : Ethernet2Header :=
  ⟨message.dstLinkAddr, message.srcLinkAddr, .arp⟩

/-- `write_header` of an `ArpMessage`. -/
def ArpMessage.writeHeader (message : ArpMessage) (buf : Buffer) : Checked Buffer := do
  let ethHdrSize := message.ethernet2Hdr.computeSize
  let ethernetBuf ← slice buf 0 ethHdrSize
  let ethernet ← message.ethernet2Hdr.serialize ethernetBuf
  let pduBuf ← slice buf ethHdrSize ArpHeader.ARP_MESSAGE_SIZE
  let pdu ← message.header.serialize pduBuf
  .ok (ethernet ++ pdu ++ buf.drop (ethHdrSize + ArpHeader.ARP_MESSAGE_SIZE))

namespace Packet

/-- `header_size`. -/
def headerSize : Packet → Nat
  | .arp _ => ETHERNET2_HEADER_SIZE + ArpHeader.ARP_MESSAGE_SIZE
  | .icmpv4 _ => ETHERNET2_HEADER_SIZE + IPV4_HEADER_MIN_SIZE + ICMPV4_HEADER_SIZE
  | .tcp segment => segment.packetBuf.headerSize
  | .tcpmig _ => ETHERNET2_HEADER_SIZE + IPV4_HEADER_MIN_SIZE + TCPMIG_HEADER_SIZE
  | .udp _ => ETHERNET2_HEADER_SIZE + IPV4_HEADER_MIN_SIZE + UDP_HEADER_SIZE

/-- `write_header`. -/
def writeHeader (profile : Profile) : Packet → Buffer → Checked Buffer
  | .arp message => message.writeHeader
  | .icmpv4 message => message.writeHeader profile
  | .tcp segment => segment.packetBuf.writeHeader profile
  | .tcpmig segment => segment.writeHeader profile
  | .udp datagram => datagram.writeHeader profile

/-- `take_body`. -/
def takeBody : Packet → Option Buffer
  | .arp _ => none
  | .icmpv4 _ => none
  | .tcp segment => segment.data
  | .tcpmig segment => some segment.data
  | .udp datagram => some datagram.data

end Packet

/-! ## Transmitting -/

/-- What the memory pools give: a buffer for headers, whatever it held before, how much a buffer
for a body can hold, and whether bodies are in such buffers already. -/
structure TransmitBuffers where
  header : Buffer
  bodySize : Nat
  managed : Bool

/-- A frame is filled up with zeros, inside of the buffer that it is in. -/
def padFrame (room : Nat) (frame : Buffer) : Checked Buffer :=
  if frame.length < MIN_PAYLOAD_SIZE then
    if room < MIN_PAYLOAD_SIZE then .error .sliceOutOfRange
    else .ok (frame ++ List.replicate (MIN_PAYLOAD_SIZE - frame.length) 0)
  else .ok frame

/-- `transmit` of the DPDK runtime: the bytes of the frame. A body is copied behind the headers
if there is room, and chained behind them otherwise. The assertions about sizes fail like the
slices that they guard. -/
def transmit (profile : Profile) (buffers : TransmitBuffers) (packet : Packet) : Checked Buffer := do
  let headerSize := packet.headerSize
  if buffers.header.length < headerSize then throw .sliceOutOfRange
  let header ← packet.writeHeader profile (buffers.header.take headerSize)
  match packet.takeBody with
  | some body =>
    if body.length > buffers.header.length - headerSize then
      if headerSize + body.length < MIN_PAYLOAD_SIZE then throw .sliceOutOfRange
      if buffers.managed = false ∧ buffers.bodySize < body.length then throw .sliceOutOfRange
      return header ++ body
    else padFrame buffers.header.length (header ++ body)
  | none => padFrame buffers.header.length header

/-! ## Receiving -/

/-- What reaches a peer, with its header parsed. -/
inductive Delivery where
  | arp (header : ArpHeader)
  | icmpv4 (ipv4Hdr : Ipv4Header) (icmpv4Hdr : Icmpv4Header)
  | tcp (ipv4Hdr : Ipv4Header) (tcpHdr : TcpHeader) (data : Buffer)
  | tcpmig (ipv4Hdr : Ipv4Header) (tcpmigHdr : TcpMigHeader) (data : Buffer)
  | rpsSignal (sum individual : Nat)
  | udp (ipv4Hdr : Ipv4Header) (udpHdr : UdpHeader) (data : Buffer)
  /-- A frame with an IPv6 packet. -/
  | ignored
  deriving DecidableEq, Repr

/-- Which checksums the hardware of the receiver verifies. -/
structure RxOffload where
  tcp : Bool
  udp : Bool
  deriving DecidableEq, Repr

/-- `TcpMigHeader::is_tcpmig`. -/
def isTcpmig (buf : Buffer) : Bool :=
  decide (TCPMIG_HEADER_SIZE ≤ buf.length) && readU32At buf 8 == MAGIC_NUMBER

/-- `TcpMigHeader::is_rps_signal`. -/
def isRpsSignal (buf : Buffer) : Bool :=
  decide (RPS_SIGNAL_HEADER_SIZE ≤ buf.length) && readU32At buf 8 == RPS_SIGNAL_SIGNATURE

/-- What a peer makes of a header that was parsed, or the failure. -/
def handOver {α : Type} (deliver : α → Delivery) (parsed : Checked (Except Fail α)) :
    Checked (Except Fail Delivery) := do
  match ← parsed with
  | .error failure => .ok (.error failure)
  | .ok accepted => .ok (.ok (deliver accepted))

/-- What the receiving peer is given, from the protocol of a datagram and what it carries. -/
def dispatch (profile : Profile) (offload : RxOffload) (ipv4Hdr : Ipv4Header)
    (protocol : IpProtocol) (payload : Buffer) : Checked (Except Fail Delivery) :=
  match protocol with
  | .icmpv4 =>
    handOver (fun accepted : Icmpv4Header × Buffer => .icmpv4 ipv4Hdr accepted.1)
      (Icmpv4Header.parse profile payload)
  | .tcp =>
    handOver (fun accepted : TcpHeader × Buffer => .tcp ipv4Hdr accepted.1 accepted.2)
      (TcpHeader.parse profile ipv4Hdr payload offload.tcp)
  | .udp =>
    if isTcpmig payload then
      handOver (fun accepted : TcpMigHeader × Buffer => .tcpmig ipv4Hdr accepted.1 accepted.2)
        (TcpMigHeader.parseFromSlice ipv4Hdr payload)
    else if isRpsSignal payload then
      .ok (.ok (.rpsSignal (readU32At payload 12) (readU32At payload 16)))
    else
      handOver (fun accepted : UdpHeader × Buffer => .udp ipv4Hdr accepted.1 accepted.2)
        (UdpHeader.parse profile ipv4Hdr payload offload.udp)

/-- `Peer::receive`, with the parsing that the receiving peers begin with. -/
def receiveIpv4 (profile : Profile) (offload : RxOffload) (buf : Buffer) :
    Checked (Except Fail Delivery) := do
  match ← Ipv4DatagramHeader.parse profile buf with
  | .error failure => .ok (.error failure)
  | .ok (header, payload) =>
    dispatch profile offload header.toIpv4Header header.protocol payload

/-- `do_receive`, with the parsing that the receiving peers begin with. -/
def doReceive (profile : Profile) (offload : RxOffload) (bytes : Buffer) :
    Checked (Except Fail Delivery) := do
  match ← Ethernet2Header.parse bytes with
  | .error failure => .ok (.error failure)
  | .ok (header, payload) =>
    match header.etherType with
    | .arp => handOver .arp (.ok (ArpHeader.parse payload))
    | .ipv4 => receiveIpv4 profile offload payload
    | .ipv6 => .ok (.ok .ignored)

end Capybara
