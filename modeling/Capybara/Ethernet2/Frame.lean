import Capybara.TcpMig.Datagram

/-!
# Ethernet frames

`ethernet2/frame.rs`. A header has fourteen bytes: the two link addresses and the type of what
the frame carries.
-/

namespace Capybara

open Wire TcpMigHeader

/-- `ETHERNET2_HEADER_SIZE`. -/
def ETHERNET2_HEADER_SIZE : Nat := 14

/-- `EtherType2`. -/
inductive EtherType2 where
  | arp
  | ipv4
  | ipv6
  deriving DecidableEq, Repr

namespace EtherType2

/-- The number of a type. -/
def toU16 : EtherType2 → UInt16
  | .arp => 0x806
  | .ipv4 => 0x800
  | .ipv6 => 0x86dd

/-- `TryFrom<u16> for EtherType2`. -/
def tryFrom (n : UInt16) : Except Fail EtherType2 :=
  if n = 0x806 then .ok .arp
  else if n = 0x800 then .ok .ipv4
  else if n = 0x86dd then .ok .ipv6
  else .error ⟨.ENOTSUP, "unsupported ETHERTYPE"⟩

/-- Every type has a number of its own. -/
theorem tryFrom_toU16 (etherType : EtherType2) : tryFrom etherType.toU16 = .ok etherType := by
  cases etherType <;> rfl

end EtherType2

/-- `Ethernet2Header`. -/
structure Ethernet2Header where
  dstAddr : MacAddress
  srcAddr : MacAddress
  etherType : EtherType2
  deriving DecidableEq, Repr

namespace Ethernet2Header

/-- `Ethernet2Header::compute_size`. -/
def computeSize (_header : Ethernet2Header) : Nat := ETHERNET2_HEADER_SIZE

/-- `MacAddress::from_bytes` at an offset. -/
def readMacAt (bytes : Buffer) (offset : Nat) : MacAddress :=
  BitVec.ofNat 48 (ofBigEndian ((bytes.drop offset).take 6))

/-- `Ethernet2Header::parse`. -/
def parse (buf : Buffer) : Checked (Except Fail (Ethernet2Header × Buffer)) :=
  let hdrBuf := buf.take ETHERNET2_HEADER_SIZE
  if buf.length < ETHERNET2_HEADER_SIZE then .ok (.error ⟨.EBADMSG, "frame too small"⟩)
  else
    match EtherType2.tryFrom (readU16At hdrBuf 12) with
    | .error failure => .ok (.error failure)
    | .ok etherType => do
      let payload ← buf.adjust ETHERNET2_HEADER_SIZE
      .ok (.ok (⟨readMacAt hdrBuf 0, readMacAt hdrBuf 6, etherType⟩, payload))

/-- The bytes of a header. -/
def bytes (header : Ethernet2Header) : Buffer :=
  bigEndian 6 header.dstAddr.toNat ++ bigEndian 6 header.srcAddr.toNat ++
    bigEndian 2 header.etherType.toU16.toNat

/-- `Ethernet2Header::serialize` into a buffer, whatever it held before. -/
def serialize (header : Ethernet2Header) (buf : Buffer) : Checked Buffer :=
  if buf.length ≠ ETHERNET2_HEADER_SIZE then .error .sliceOutOfRange else .ok header.bytes

/-- A header has 14 bytes. -/
theorem bytes_length (header : Ethernet2Header) : header.bytes.length = ETHERNET2_HEADER_SIZE := by
  simp [bytes, ETHERNET2_HEADER_SIZE]

/-- A link address is read where it was written. -/
theorem readMacAt_eq (before after : Buffer) (addr : MacAddress) :
    readMacAt (before ++ (bigEndian 6 addr.toNat ++ after)) before.length = addr := by
  unfold readMacAt
  rw [List.drop_left, List.take_left' (bigEndian_length _ _), ofBigEndian_bigEndian addr.isLt,
    BitVec.ofNat_toNat, BitVec.setWidth_eq]

/-- The fields at the places where they are read. -/
theorem fields_eq (header : Ethernet2Header) :
    readMacAt header.bytes 0 = header.dstAddr ∧ readMacAt header.bytes 6 = header.srcAddr ∧
      readU16At header.bytes 12 = header.etherType.toU16 := by
  have dst := readMacAt_eq [] (bigEndian 6 header.srcAddr.toNat ++
    bigEndian 2 header.etherType.toU16.toNat) header.dstAddr
  have src := readMacAt_eq (bigEndian 6 header.dstAddr.toNat)
    (bigEndian 2 header.etherType.toU16.toNat) header.srcAddr
  have kind := readU16At_eq (bigEndian 6 header.dstAddr.toNat ++ bigEndian 6 header.srcAddr.toNat)
    [] header.etherType.toU16
  rw [List.nil_append, ← List.append_assoc] at dst
  rw [bigEndian_length, ← List.append_assoc] at src
  rw [List.append_nil, List.length_append, bigEndian_length, bigEndian_length] at kind
  exact ⟨dst, src, kind⟩

/-- A written header with something behind it is parsed to the header and what is behind it. -/
theorem parse_bytes (header : Ethernet2Header) (rest : Buffer) :
    parse (header.bytes ++ rest) = .ok (.ok (header, rest)) := by
  have size := header.bytes_length
  obtain ⟨dst, src, kind⟩ := header.fields_eq
  have room : ETHERNET2_HEADER_SIZE ≤ (header.bytes ++ rest).length := by
    rw [List.length_append, size]
    exact Nat.le_add_right _ _
  unfold parse
  dsimp only
  rw [if_neg (Nat.not_lt_of_le room), List.take_left' size, dst, src, kind,
    EtherType2.tryFrom_toU16, Buffer.adjust_of_le room, List.drop_left' size]
  rfl

end Ethernet2Header

end Capybara
