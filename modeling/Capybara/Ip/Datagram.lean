import Capybara.Ip.Checksum

/-!
# IPv4 datagrams

`ipv4/datagram.rs`. Parsing checks one field after the other and refuses the datagram at the
first that it does not support. What is left behind the header is cut to the total length, as
the link layer may have padded it. Serialising writes the twenty bytes of a header without
options, whatever its header length says.

The checksum covers the first twenty bytes except those that carry it.
-/

namespace Capybara

open Wire TcpMigHeader

/-- `IPV4_DATAGRAM_MIN_SIZE`. -/
def IPV4_DATAGRAM_MIN_SIZE : Nat := 20

/-- `IPV4_HEADER_MIN_SIZE`. -/
def IPV4_HEADER_MIN_SIZE : Nat := 20

/-- `IPV4_IHL_NO_OPTIONS`. -/
def IPV4_IHL_NO_OPTIONS : UInt8 := 5

/-- `DEFAULT_IPV4_TTL`. -/
def DEFAULT_IPV4_TTL : UInt8 := 255

/-- `IPV4_VERSION`. -/
def IPV4_VERSION : UInt8 := 4

/-- `IPV4_CTRL_FLAG_EVIL`. -/
def IPV4_CTRL_FLAG_EVIL : UInt8 := 0x4

/-- `IPV4_CTRL_FLAG_DF`. -/
def IPV4_CTRL_FLAG_DF : UInt8 := 0x2

/-- `IPV4_CTRL_FLAG_MF`. -/
def IPV4_CTRL_FLAG_MF : UInt8 := 0x1

/-- `IpProtocol`. -/
inductive IpProtocol where
  | icmpv4
  | tcp
  | udp
  deriving DecidableEq, Repr

namespace IpProtocol

/-- The number of a protocol. -/
def toU8 : IpProtocol → UInt8
  | .icmpv4 => 0x01
  | .tcp => 0x06
  | .udp => 0x11

/-- `TryFrom<u8> for IpProtocol`. -/
def tryFrom (n : UInt8) : Except Fail IpProtocol :=
  match n.toNat with
  | 0x01 => .ok .icmpv4
  | 0x06 => .ok .tcp
  | 0x11 => .ok .udp
  | _ => .error ⟨.ENOTSUP, "unsupported IPv4 protocol"⟩

end IpProtocol

/-- The total length that `Ipv4Header::serialize` writes. -/
def Ipv4Header.totalLength (profile : Profile) (payloadLen : Nat) : Checked Nat :=
  addU16 profile IPV4_HEADER_MIN_SIZE (payloadLen % 2 ^ 16)

/-- `Ipv4Header` with all its fields. -/
structure Ipv4DatagramHeader extends Ipv4Header where
  version : UInt8
  ihl : UInt8
  dscp : UInt8
  ecn : UInt8
  totalLength : UInt16
  identification : UInt16
  flags : UInt8
  fragmentOffset : UInt16
  ttl : UInt8
  protocol : IpProtocol
  headerChecksum : UInt16
  deriving DecidableEq, Repr

namespace Ipv4DatagramHeader

/-- `Ipv4Header::new`. -/
def new (srcAddr destAddr : Ipv4Addr) (protocol : IpProtocol) : Ipv4DatagramHeader where
  srcAddr
  destAddr
  version := IPV4_VERSION
  ihl := IPV4_IHL_NO_OPTIONS
  dscp := 0
  ecn := 0
  totalLength := UInt16.ofNat IPV4_HEADER_MIN_SIZE
  identification := 0
  flags := IPV4_CTRL_FLAG_DF
  fragmentOffset := 0
  ttl := DEFAULT_IPV4_TTL
  protocol
  headerChecksum := 0

/-- `Ipv4Header::compute_size`. -/
def computeSize (_header : Ipv4DatagramHeader) : Nat := IPV4_HEADER_MIN_SIZE

/-! ## The checksum -/

/-- What `compute_checksum` adds up. -/
def checksumWords (buf : Buffer) : List Nat :=
  (words (buf.take 10) ++ words ((buf.take 20).drop 12)).map UInt16.toNat

/-- `Ipv4Header::compute_checksum`. -/
def computeChecksum (profile : Profile) (buf : Buffer) : Checked UInt16 :=
  if buf.length < IPV4_HEADER_MIN_SIZE then .error .sliceOutOfRange
  else do
    let state ← (checksumWords buf).foldlM (addU32 profile) 0xFFFF
    .ok (UInt16.ofNat (0xFFFF - foldCarries state state))

/-! ## Parsing -/

/-- The fields of a header with the given protocol. -/
def ofBytes (hdrBuf : Buffer) (protocol : IpProtocol) : Ipv4DatagramHeader where
  srcAddr := BitVec.ofNat 32 (readU32At hdrBuf 12)
  destAddr := BitVec.ofNat 32 (readU32At hdrBuf 16)
  version := hdrBuf.getD 0 0 >>> 4
  ihl := hdrBuf.getD 0 0 &&& 0xF
  dscp := hdrBuf.getD 1 0 >>> 2
  ecn := hdrBuf.getD 1 0 &&& 3
  totalLength := readU16At hdrBuf 2
  identification := readU16At hdrBuf 4
  flags := hdrBuf.getD 6 0 >>> 5
  fragmentOffset := readU16At hdrBuf 6 &&& 0x1FFF
  ttl := hdrBuf.getD 8 0
  protocol
  headerChecksum := readU16At hdrBuf 10

/-- The size of the header, from its length in words. -/
def hdrSize (buf : Buffer) : Nat := (buf.getD 0 0 &&& 0xF).toNat * 4

/-- Refuse the datagram. -/
def refuse {α : Type} (errno : Errno) (cause : String) : Checked (Except Fail α) :=
  .ok (.error ⟨errno, cause⟩)

/-- The end of `Ipv4Header::parse`, once the protocol is known. -/
def verify (profile : Profile) (buf : Buffer) (protocol : IpProtocol) :
    Checked (Except Fail (Ipv4DatagramHeader × Buffer)) :=
  let hdrBuf := buf.take (hdrSize buf)
  let header := ofBytes hdrBuf protocol
  if header.headerChecksum = 0xFFFF then refuse .EBADMSG "ipv4 checksum invalid"
  else do
    let computed ← computeChecksum profile hdrBuf
    if header.headerChecksum ≠ computed then refuse .EBADMSG "ipv4 checksum mismatch"
    else do
      let paddingBytes := buf.length - header.totalLength.toNat
      let behind ← buf.adjust (hdrSize buf)
      let payload ← behind.trim paddingBytes
      .ok (.ok (header, payload))

/-- `Ipv4Header::parse`. -/
def parse (profile : Profile) (buf : Buffer) :
    Checked (Except Fail (Ipv4DatagramHeader × Buffer)) :=
  let hdrBuf := buf.take (hdrSize buf)
  let totalLength := (readU16At hdrBuf 2).toNat
  let flags := hdrBuf.getD 6 0 >>> 5
  if buf.length < IPV4_DATAGRAM_MIN_SIZE then refuse .EBADMSG "ipv4 datagram too small"
  else if buf.getD 0 0 >>> 4 ≠ IPV4_VERSION then refuse .ENOTSUP "unsupported IP version"
  else if hdrSize buf < IPV4_HEADER_MIN_SIZE then refuse .EBADMSG "ipv4 IHL is too small"
  else if buf.length < hdrSize buf then
    refuse .EBADMSG "ipv4 datagram too small to fit in header"
  else if totalLength < hdrSize buf then refuse .EBADMSG "ipv4 datagram smaller than header"
  else if totalLength > buf.length then refuse .EBADMSG "ipv4 datagram size mismatch"
  else if flags &&& IPV4_CTRL_FLAG_EVIL ≠ 0 then refuse .EBADMSG "ipv4 datagram is marked as evil"
  else if flags &&& IPV4_CTRL_FLAG_MF ≠ 0 then
    refuse .ENOTSUP "ipv4 fragmentation is not supported"
  else if readU16At hdrBuf 6 &&& 0x1FFF ≠ 0 then
    refuse .ENOTSUP "ipv4 fragmentation is not supported"
  else if hdrBuf.getD 8 0 = 0 then refuse .EBADMSG "ipv4 datagram too old"
  else
    match IpProtocol.tryFrom (hdrBuf.getD 9 0) with
    | .error failure => .ok (.error failure)
    | .ok protocol => verify profile buf protocol

/-! ## Serialising -/

/-- The bytes before the checksum. -/
def frontBytes (header : Ipv4DatagramHeader) (totalLength : Nat) : Buffer :=
  [(header.version <<< 4) ||| header.ihl, (header.dscp <<< 2) ||| (header.ecn &&& 3)] ++
    bigEndian 2 totalLength ++ bigEndian 2 header.identification.toNat ++
    bigEndian 2 ((header.flags.toUInt16 <<< 13) ||| (header.fragmentOffset &&& 0x1FFF)).toNat ++
    [header.ttl, header.protocol.toU8]

/-- The bytes behind the checksum. -/
def backBytes (header : Ipv4DatagramHeader) : Buffer :=
  octets header.srcAddr ++ octets header.destAddr

/-- `Ipv4Header::serialize` into a buffer, whatever it held before. The checksum is computed
while its own two bytes still hold what was there. -/
def serialize (profile : Profile) (header : Ipv4DatagramHeader) (buf : Buffer)
    (payloadLen : Nat) : Checked Buffer :=
  if buf.length ≠ IPV4_HEADER_MIN_SIZE then .error .sliceOutOfRange
  else do
    let totalLength ← Ipv4Header.totalLength profile payloadLen
    let checksum ← computeChecksum profile
      (header.frontBytes totalLength ++ (buf.drop 10).take 2 ++ header.backBytes)
    .ok (header.frontBytes totalLength ++ bigEndian 2 checksum.toNat ++ header.backBytes)

end Ipv4DatagramHeader

end Capybara
