import Capybara.Runtime.Buffer
import Capybara.Tcp.SequenceNumber

/-!
# TCP headers and segments

`segment.rs`, as far as an established connection reads or writes it. The
checksum is verified while parsing and computed while serialising, so a header
carries none.
-/

namespace Capybara

/-- `SelectiveAcknowlegement`. -/
structure SelectiveAcknowlegement where
  first : SeqNumber
  last : SeqNumber
  deriving DecidableEq, Repr

/-- `TcpOptions2`. -/
inductive TcpOptions2 where
  | noOperation
  | maximumSegmentSize (mss : UInt16)
  | windowScale (scale : UInt8)
  | selectiveAcknowlegementPermitted
  | selectiveAcknowlegement (sacks : List SelectiveAcknowlegement)
  | timestamp (senderTimestamp echoTimestamp : UInt32)
  deriving DecidableEq, Repr

/-- `TcpHeader`; `options` is the used part of `option_list`. -/
structure TcpHeader where
  srcPort : UInt16
  dstPort : UInt16
  seqNum : SeqNumber := SeqNumber.ofU32 0
  ackNum : SeqNumber := SeqNumber.ofU32 0
  ns : Bool := false
  cwr : Bool := false
  ece : Bool := false
  urg : Bool := false
  ack : Bool := false
  psh : Bool := false
  rst : Bool := false
  syn : Bool := false
  fin : Bool := false
  windowSize : UInt16 := 0
  urgentPointer : UInt16 := 0
  options : List TcpOptions2 := []
  deriving DecidableEq, Repr

/-- `TcpHeader::new`. -/
def TcpHeader.new (srcPort dstPort : UInt16) : TcpHeader := { srcPort, dstPort }

/-- `TcpSegment`: what `emit` hands to the network runtime, with the fields of
the link and network headers that it fills in. -/
structure TcpSegment where
  dstLinkAddr : MacAddress
  srcLinkAddr : MacAddress
  srcAddr : Ipv4Addr
  dstAddr : Ipv4Addr
  tcpHdr : TcpHeader
  data : Option Buffer
  txChecksumOffload : Bool
  deriving DecidableEq, Repr

end Capybara
