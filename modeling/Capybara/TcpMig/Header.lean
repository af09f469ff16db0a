import Capybara.Lib.Wire
import Capybara.Runtime.Buffer

/-!
# The header of migration messages

`tcpmig/segment/header.rs`. A header has a fixed layout of 28 bytes, the first
eight of which read as a UDP header. The checksum is the negated wrapping sum of
the 16-bit words of the network addresses, of the header around its own place and
of the payload; a received checksum of zero is not verified.
-/

namespace Capybara

open Wire

/-- The addresses of an `Ipv4Header`, all that the transport reads of it. -/
structure Ipv4Header where
  srcAddr : Ipv4Addr
  destAddr : Ipv4Addr
  deriving DecidableEq, Repr

/-- `TCPMIG_HEADER_SIZE`. -/
def TCPMIG_HEADER_SIZE : Nat := 28

/-- `MAGIC_NUMBER`. -/
def MAGIC_NUMBER : Nat := 0xCAFEDEAD

/-- `MigrationStage`. -/
inductive MigrationStage where
  | none
  | rejected
  | prepareMigration
  | prepareMigrationAck
  | connectionState
  | connectionStateAck
  | heartbeatUpdate
  | heartbeatResponse
  deriving DecidableEq, Repr

namespace MigrationStage

/-- `From<MigrationStage> for u8`. -/
def toU8 : MigrationStage → UInt8
  | .none => 0
  | .rejected => 1
  | .prepareMigration => 2
  | .prepareMigrationAck => 3
  | .connectionState => 4
  | .connectionStateAck => 5
  | .heartbeatUpdate => 12
  | .heartbeatResponse => 13

/-- `TryFrom<u8> for MigrationStage`. -/
def ofU8 (value : UInt8) : Except UInt8 MigrationStage :=
  match value.toNat with
  | 0 => .ok .none
  | 1 => .ok .rejected
  | 2 => .ok .prepareMigration
  | 3 => .ok .prepareMigrationAck
  | 4 => .ok .connectionState
  | 5 => .ok .connectionStateAck
  | 12 => .ok .heartbeatUpdate
  | 13 => .ok .heartbeatResponse
  | _ => .error value

end MigrationStage

/-- `TcpMigHeader`. -/
structure TcpMigHeader where
  origin : SocketAddrV4
  client : SocketAddrV4
  length : UInt16
  fragmentOffset : UInt16
  flagLoad : Bool
  flagNextFragment : Bool
  stage : MigrationStage
  sourceUdpPort : UInt16
  destUdpPort : UInt16
  deriving DecidableEq, Repr

namespace TcpMigHeader

/-- `TcpMigHeader::new`. The sum fits for the payload lengths that are passed. -/
def new (origin client : SocketAddrV4) (payloadLength : UInt16) (stage : MigrationStage)
    (sourceUdpPort destUdpPort : UInt16) : TcpMigHeader where
  origin
  client
  length := UInt16.ofNat TCPMIG_HEADER_SIZE + payloadLength
  fragmentOffset := 0
  flagLoad := false
  flagNextFragment := false
  stage
  sourceUdpPort
  destUdpPort

/-- `swap_src_dst_port`. -/
def swapSrcDstPort (hdr : TcpMigHeader) : TcpMigHeader :=
  { hdr with sourceUdpPort := hdr.destUdpPort, destUdpPort := hdr.sourceUdpPort }

/-! ## The checksum -/

/-- `octets` of an address. -/
def octets (addr : Ipv4Addr) : Buffer := bigEndian 4 addr.toNat

/-- `chunks_exact(2)`, each read as a number. -/
def words : Buffer → List UInt16
  | high :: low :: rest => UInt16.ofNat (ofBigEndian [high, low]) :: words rest
  | _ => []

/-- The remainder of `chunks_exact(2)`, filled up with zeros. -/
def lastWord (data : Buffer) : Buffer :=
  match data.drop (data.length / 2 * 2) with
  | last :: _ => [last, 0]
  | [] => [0, 0]

/-- `checksum`. -/
def checksum (ipv4Hdr : Ipv4Header) (migrationHdr data : Buffer) : UInt16 :=
  let covered := words (octets ipv4Hdr.srcAddr) ++ words (octets ipv4Hdr.destAddr) ++
    words (migrationHdr.take 6) ++ words (migrationHdr.drop 8) ++ words data ++ words (lastWord data)
  0 - covered.foldl (· + ·) 0

/-! ## Parsing -/

/-- `NetworkEndian::read_u16` at an offset. -/
def readU16At (bytes : Buffer) (offset : Nat) : UInt16 :=
  UInt16.ofNat (ofBigEndian ((bytes.drop offset).take 2))

/-- `NetworkEndian::read_u32` at an offset. -/
def readU32At (bytes : Buffer) (offset : Nat) : Nat := ofBigEndian ((bytes.drop offset).take 4)

/-- An address and a port at an offset. -/
def readAddrAt (bytes : Buffer) (offset : Nat) : SocketAddrV4 :=
  ⟨BitVec.ofNat 32 (readU32At bytes offset), readU16At bytes (offset + 4)⟩

/-- `parse_from_slice` and `parse`. -/
def parse (ipv4Hdr : Ipv4Header) (buf : Buffer) : Except Fail (TcpMigHeader × Buffer) :=
  if buf.length < TCPMIG_HEADER_SIZE then .error ⟨.EBADMSG, "TCPMig segment too small"⟩
  else if readU32At buf 8 ≠ MAGIC_NUMBER then .error ⟨.EBADMSG, "not a TCPMig segment"⟩
  else
    let hdrBuf := buf.take TCPMIG_HEADER_SIZE
    let payload := buf.drop TCPMIG_HEADER_SIZE
    let flags := hdrBuf.getD 26 0
    match MigrationStage.ofU8 ((flags &&& 0xF0) >>> 4) with
    | .error value => .error ⟨.EBADMSG, "Invalid TCPMig stage: " ++ toString value⟩
    | .ok stage =>
      let sum := readU16At hdrBuf 6
      if sum ≠ 0 ∧ sum ≠ checksum ipv4Hdr hdrBuf payload then
        .error ⟨.EBADMSG, "TCPMig checksum mismatch"⟩
      else .ok ({
        origin := readAddrAt hdrBuf 12
        client := readAddrAt hdrBuf 18
        length := readU16At hdrBuf 4
        fragmentOffset := readU16At hdrBuf 24
        flagLoad := flags &&& 1 != 0
        flagNextFragment := flags &&& 2 != 0
        stage
        sourceUdpPort := readU16At hdrBuf 0
        destUdpPort := readU16At hdrBuf 2 }, payload)

/-! ## Serialising -/

/-- `serialize_flags_and_stage`. -/
def serializeFlagsAndStage (hdr : TcpMigHeader) : UInt8 :=
  let load : UInt8 := if hdr.flagLoad then 1 else 0
  let next : UInt8 := if hdr.flagNextFragment then 1 else 0
  (load <<< 0) ||| (next <<< 1) ||| (hdr.stage.toU8 <<< 4)

/-- The six bytes of an address and a port. -/
def addrBytes (addr : SocketAddrV4) : Buffer := octets addr.ip ++ bigEndian 2 addr.port.toNat

/-- The header before the checksum. -/
def frontBytes (hdr : TcpMigHeader) : Buffer :=
  bigEndian 2 hdr.sourceUdpPort.toNat ++ bigEndian 2 hdr.destUdpPort.toNat ++
    bigEndian 2 hdr.length.toNat

/-- The header behind the checksum. -/
def backBytes (hdr : TcpMigHeader) : Buffer :=
  bigEndian 4 MAGIC_NUMBER ++ addrBytes hdr.origin ++ addrBytes hdr.client ++
    bigEndian 2 hdr.fragmentOffset.toNat ++ [hdr.serializeFlagsAndStage, 0]

/-- `serialize`: the checksum is computed while its own bytes are zero. -/
def serialize (hdr : TcpMigHeader) (ipv4Hdr : Ipv4Header) (data : Buffer) : Buffer :=
  let sum := checksum ipv4Hdr (hdr.frontBytes ++ [0, 0] ++ hdr.backBytes) data
  hdr.frontBytes ++ bigEndian 2 sum.toNat ++ hdr.backBytes

end TcpMigHeader

end Capybara
