import Capybara.Tcp.SegmentCodec

/-!
# UDP headers

`udp/datagram/header.rs`. A header has eight bytes: the ports, the length of the datagram
and the checksum, which is computed in the same way as that of TCP. A received checksum of
zero is not verified.
-/

namespace Capybara

open Wire TcpMigHeader

/-- `UDP_HEADER_SIZE`. -/
def UDP_HEADER_SIZE : Nat := 8

/-- `IpProtocol::UDP`. -/
def IP_PROTOCOL_UDP : Nat := 17

/-- `UdpHeader`. -/
structure UdpHeader where
  srcPort : UInt16
  destPort : UInt16
  deriving DecidableEq, Repr

namespace UdpHeader

/-- What `checksum` adds up, in order: the pseudo header, the header before the checksum and
the data. -/
def checksumWords (ipv4Hdr : Ipv4Header) (udpHdr data : Buffer) : List Nat :=
  (words (octets ipv4Hdr.srcAddr) ++ words (octets ipv4Hdr.destAddr)).map UInt16.toNat ++
    [IP_PROTOCOL_UDP, asU32 (udpHdr.length + data.length)] ++
    (words (udpHdr.take 6) ++ words data ++ words (lastWord data)).map UInt16.toNat

/-- `checksum`. The header is converted to an array of eight bytes. -/
def checksum (profile : Profile) (ipv4Hdr : Ipv4Header) (udpHdr data : Buffer) : Checked UInt16 :=
  if udpHdr.length ≠ UDP_HEADER_SIZE then .error .sliceOutOfRange
  else do
    let state ← (checksumWords ipv4Hdr udpHdr data).foldlM (addU32 profile) 0xFFFF
    .ok (UInt16.ofNat (0xFFFF - foldCarries state state))

/-- `parse_from_slice` and `parse`. -/
def parse (profile : Profile) (ipv4Hdr : Ipv4Header) (buf : Buffer) (checksumOffload : Bool) :
    Checked (Except Fail (UdpHeader × Buffer)) :=
  let hdrBuf := buf.take UDP_HEADER_SIZE
  let payloadBuf := buf.drop UDP_HEADER_SIZE
  if buf.length < UDP_HEADER_SIZE then .ok (.error ⟨.EBADMSG, "UDP segment too small"⟩)
  else if (readU16At hdrBuf 4).toNat ≠ buf.length then
    .ok (.error ⟨.EBADMSG, "UDP length mismatch"⟩)
  else do
    let received := readU16At hdrBuf 6
    let verified ← (
      if checksumOffload then .ok true
      else if received = 0 then .ok true
      else do
        let computed ← checksum profile ipv4Hdr hdrBuf payloadBuf
        .ok (received == computed))
    if !verified then .ok (.error ⟨.EBADMSG, "UDP checksum mismatch"⟩)
    else .ok (.ok (⟨readU16At hdrBuf 0, readU16At hdrBuf 2⟩, payloadBuf))

/-- The bytes before the checksum. The length is cut to sixteen bits. -/
def frontBytes (header : UdpHeader) (data : Buffer) : Buffer :=
  bigEndian 2 header.srcPort.toNat ++ bigEndian 2 header.destPort.toNat ++
    bigEndian 2 (UDP_HEADER_SIZE + data.length)

/-- `serialize` into a buffer, whatever it held before. -/
def serialize (profile : Profile) (header : UdpHeader) (buf : Buffer) (ipv4Hdr : Ipv4Header)
    (data : Buffer) (checksumOffload : Bool) : Checked Buffer :=
  if buf.length < UDP_HEADER_SIZE then .error .sliceOutOfRange
  else do
    let sum ← (
      if checksumOffload then .ok 0
      else checksum profile ipv4Hdr (header.frontBytes data ++ (buf.drop 6).take 2) data)
    .ok (header.frontBytes data ++ bigEndian 2 sum.toNat ++ buf.drop UDP_HEADER_SIZE)

end UdpHeader

end Capybara
