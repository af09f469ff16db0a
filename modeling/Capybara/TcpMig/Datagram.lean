import Capybara.TcpMig.Segment

/-!
# A message as it arrives

A header occupies 28 bytes, each field at the place where the receiver reads it. What
a receiver parses from the bytes of a message is therefore its header and its data,
whatever network addresses the bytes arrive with.
-/

namespace Capybara

open Wire

namespace MigrationStage

/-- Every stage has a code of its own. -/
theorem ofU8_toU8 (stage : MigrationStage) : ofU8 stage.toU8 = .ok stage := by
  cases stage <;> rfl

end MigrationStage

namespace TcpMigHeader

/-- A number of 16 bits is read where it was written. -/
theorem readU16At_eq (before after : Buffer) (value : UInt16) :
    readU16At (before ++ (bigEndian 2 value.toNat ++ after)) before.length = value := by
  unfold readU16At
  rw [List.drop_left, List.take_left' (bigEndian_length _ _), ofBigEndian_bigEndian value.toNat_lt]
  exact UInt16.ofNat_toNat

/-- A number of 32 bits is read where it was written. -/
theorem readU32At_eq (before after : Buffer) {value : Nat} (fits : value < 2 ^ 32) :
    readU32At (before ++ (bigEndian 4 value ++ after)) before.length = value := by
  unfold readU32At
  rw [List.drop_left, List.take_left' (bigEndian_length _ _), ofBigEndian_bigEndian fits]

/-- What is cut off behind a byte does not change it. -/
theorem getD_take {bytes : Buffer} {count place : Nat} (inside : place < count) :
    (bytes.take count).getD place 0 = bytes.getD place 0 := by
  rw [List.getD_eq_getElem?_getD, List.getD_eq_getElem?_getD, List.getElem?_take_of_lt inside]

/-- What is cut off behind two bytes does not change their number. -/
theorem readU16At_take {bytes : Buffer} {count offset : Nat} (inside : offset + 2 ≤ count) :
    readU16At (bytes.take count) offset = readU16At bytes offset := by
  unfold readU16At
  rw [List.drop_take, List.take_take, Nat.min_eq_left (by omega)]

/-- What is cut off behind four bytes does not change their number. -/
theorem readU32At_take {bytes : Buffer} {count offset : Nat} (inside : offset + 4 ≤ count) :
    readU32At (bytes.take count) offset = readU32At bytes offset := by
  unfold readU32At
  rw [List.drop_take, List.take_take, Nat.min_eq_left (by omega)]

/-- The two bytes of a number that is read. -/
theorem bytes_readU16At {bytes : Buffer} {offset : Nat} (inside : offset + 2 ≤ bytes.length) :
    (bytes.drop offset).take 2 = bigEndian 2 (readU16At bytes offset).toNat := by
  have size : ((bytes.drop offset).take 2).length = 2 := by
    rw [List.length_take, List.length_drop]
    omega
  have fits := ofBigEndian_lt ((bytes.drop offset).take 2)
  have back := bigEndian_ofBigEndian ((bytes.drop offset).take 2)
  rw [size] at fits back
  rw [readU16At, UInt16.toNat_ofNat_of_lt' fits, back]

/-- An address is read where it was written. -/
theorem readAddrAt_eq (before after : Buffer) (addr : SocketAddrV4) :
    readAddrAt (before ++ (addrBytes addr ++ after)) before.length = addr := by
  have ip := readU32At_eq before (bigEndian 2 addr.port.toNat ++ after) addr.ip.isLt
  have port := readU16At_eq (before ++ octets addr.ip) after addr.port
  have behind : (before ++ octets addr.ip).length = before.length + 4 := by
    simp [octets]
  rw [behind] at port
  unfold readAddrAt addrBytes
  simp only [List.append_assoc] at port ⊢
  rw [port]
  unfold octets
  rw [ip, BitVec.ofNat_toNat, BitVec.setWidth_eq]

/-- The flags and the stage share one byte, of which each can be read. -/
theorem serializeFlagsAndStage_eq (hdr : TcpMigHeader) :
    (hdr.serializeFlagsAndStage &&& 0xF0) >>> 4 = hdr.stage.toU8 ∧
    (hdr.serializeFlagsAndStage &&& 1 != 0) = hdr.flagLoad ∧
    (hdr.serializeFlagsAndStage &&& 2 != 0) = hdr.flagNextFragment := by
  unfold serializeFlagsAndStage
  cases hdr.flagLoad <;> cases hdr.flagNextFragment <;> cases hdr.stage <;> decide

/-- Six bytes stand in front of the checksum. -/
theorem frontBytes_length (hdr : TcpMigHeader) : hdr.frontBytes.length = 6 := by
  simp [frontBytes]

/-- Twenty bytes stand behind it. -/
theorem backBytes_length (hdr : TcpMigHeader) : hdr.backBytes.length = 20 := by
  simp [backBytes, addrBytes, octets]

/-- A header that is written has 28 bytes. -/
theorem serialize_length (hdr : TcpMigHeader) (ipv4Hdr : Ipv4Header) (data : Buffer) :
    (hdr.serialize ipv4Hdr data).length = TCPMIG_HEADER_SIZE := by
  simp [serialize, frontBytes_length, backBytes_length, TCPMIG_HEADER_SIZE]

/-- The fields at the places where they are read. -/
theorem fields_eq (hdr : TcpMigHeader) (sum : UInt16) :
    let bytes := hdr.frontBytes ++ bigEndian 2 sum.toNat ++ hdr.backBytes
    readU16At bytes 0 = hdr.sourceUdpPort ∧ readU16At bytes 2 = hdr.destUdpPort ∧
    readU16At bytes 4 = hdr.length ∧ readAddrAt bytes 12 = hdr.origin ∧
    readAddrAt bytes 18 = hdr.client ∧ readU16At bytes 24 = hdr.fragmentOffset ∧
    bytes.getD 26 0 = hdr.serializeFlagsAndStage := by
  have source := readU16At_eq [] (bigEndian 2 hdr.destUdpPort.toNat ++ bigEndian 2 hdr.length.toNat ++
    bigEndian 2 sum.toNat ++ hdr.backBytes) hdr.sourceUdpPort
  have dest := readU16At_eq (bigEndian 2 hdr.sourceUdpPort.toNat) (bigEndian 2 hdr.length.toNat ++
    bigEndian 2 sum.toNat ++ hdr.backBytes) hdr.destUdpPort
  have length := readU16At_eq
    (bigEndian 2 hdr.sourceUdpPort.toNat ++ bigEndian 2 hdr.destUdpPort.toNat)
    (bigEndian 2 sum.toNat ++ hdr.backBytes) hdr.length
  have origin := readAddrAt_eq (hdr.frontBytes ++ bigEndian 2 sum.toNat ++ bigEndian 4 MAGIC_NUMBER)
    (addrBytes hdr.client ++ bigEndian 2 hdr.fragmentOffset.toNat ++ [hdr.serializeFlagsAndStage, 0])
    hdr.origin
  have client := readAddrAt_eq (hdr.frontBytes ++ bigEndian 2 sum.toNat ++ bigEndian 4 MAGIC_NUMBER ++
    addrBytes hdr.origin) (bigEndian 2 hdr.fragmentOffset.toNat ++ [hdr.serializeFlagsAndStage, 0])
    hdr.client
  have offset := readU16At_eq (hdr.frontBytes ++ bigEndian 2 sum.toNat ++ bigEndian 4 MAGIC_NUMBER ++
    addrBytes hdr.origin ++ addrBytes hdr.client) [hdr.serializeFlagsAndStage, 0] hdr.fragmentOffset
  have flags : (hdr.frontBytes ++ bigEndian 2 sum.toNat ++ bigEndian 4 MAGIC_NUMBER ++
      addrBytes hdr.origin ++ addrBytes hdr.client ++ bigEndian 2 hdr.fragmentOffset.toNat ++
      [hdr.serializeFlagsAndStage, 0]).getD 26 0 = hdr.serializeFlagsAndStage := by
    have before : (hdr.frontBytes ++ bigEndian 2 sum.toNat ++ bigEndian 4 MAGIC_NUMBER ++
        addrBytes hdr.origin ++ addrBytes hdr.client ++
        bigEndian 2 hdr.fragmentOffset.toNat).length = 26 := by
      simp [frontBytes, addrBytes, octets]
    rw [List.getD_eq_getElem?_getD, List.getElem?_append_right (Nat.le_of_eq before), before]
    rfl
  simp only [frontBytes, addrBytes, octets, List.append_assoc, List.length_append, List.length_nil,
    bigEndian_length, List.nil_append] at source dest length origin client offset flags
  simp only [frontBytes, backBytes, addrBytes, octets, List.append_assoc]
  refine ⟨?_, ?_, length, origin, client, offset, flags⟩
  · simpa [backBytes, addrBytes, octets] using source
  · simpa [backBytes, addrBytes, octets] using dest

/-- The checksum reads everything but the two bytes in which it is carried. -/
theorem checksum_congr {ipv4Hdr : Ipv4Header} {bytes bytes' data : Buffer}
    (front : bytes.take 6 = bytes'.take 6) (back : bytes.drop 8 = bytes'.drop 8) :
    checksum ipv4Hdr bytes data = checksum ipv4Hdr bytes' data := by
  simp only [checksum, front, back]

end TcpMigHeader

namespace TcpMigSegment

/-- The checksum that a message carries. -/
def sum (segment : TcpMigSegment) : UInt16 :=
  TcpMigHeader.checksum segment.ipv4Hdr
    (segment.tcpmigHdr.frontBytes ++ [0, 0] ++ segment.tcpmigHdr.backBytes) segment.data

/-- The bytes of a message are parsed to its header and its data if the checksum is right. -/
theorem parse_eq (segment : TcpMigSegment) (ipv4Hdr : Ipv4Header) :
    TcpMigHeader.parse ipv4Hdr segment.datagram =
      if segment.sum ≠ 0 ∧ segment.sum ≠ TcpMigHeader.checksum ipv4Hdr
          (segment.tcpmigHdr.serialize segment.ipv4Hdr segment.data) segment.data then
        .error ⟨.EBADMSG, "TCPMig checksum mismatch"⟩
      else .ok (segment.tcpmigHdr, segment.data) := by
  have size := segment.tcpmigHdr.serialize_length segment.ipv4Hdr segment.data
  have front : segment.datagram.take TCPMIG_HEADER_SIZE =
      segment.tcpmigHdr.serialize segment.ipv4Hdr segment.data := List.take_left' size
  have behind : segment.datagram.drop TCPMIG_HEADER_SIZE = segment.data := List.drop_left' size
  have long : ¬ segment.datagram.length < TCPMIG_HEADER_SIZE := by
    rw [datagram, List.length_append, size]
    omega
  have bytes : segment.tcpmigHdr.serialize segment.ipv4Hdr segment.data =
    segment.tcpmigHdr.frontBytes ++ bigEndian 2 segment.sum.toNat ++ segment.tcpmigHdr.backBytes := rfl
  have eight : (segment.tcpmigHdr.frontBytes ++ bigEndian 2 segment.sum.toNat).length = 8 := by
    rw [List.length_append, TcpMigHeader.frontBytes_length, bigEndian_length]
  have magic : TcpMigHeader.readU32At segment.datagram 8 = MAGIC_NUMBER := by
    have read := TcpMigHeader.readU32At_eq
      (segment.tcpmigHdr.frontBytes ++ bigEndian 2 segment.sum.toNat)
      (TcpMigHeader.addrBytes segment.tcpmigHdr.origin ++
        TcpMigHeader.addrBytes segment.tcpmigHdr.client ++
        bigEndian 2 segment.tcpmigHdr.fragmentOffset.toNat ++
        [segment.tcpmigHdr.serializeFlagsAndStage, 0] ++ segment.data)
      (by decide : MAGIC_NUMBER < 2 ^ 32)
    rw [eight] at read
    rw [datagram, bytes, TcpMigHeader.backBytes]
    simp only [List.append_assoc] at read ⊢
    exact read
  have carried : TcpMigHeader.readU16At (segment.tcpmigHdr.frontBytes ++
      bigEndian 2 segment.sum.toNat ++ segment.tcpmigHdr.backBytes) 6 = segment.sum := by
    have read := TcpMigHeader.readU16At_eq segment.tcpmigHdr.frontBytes
      segment.tcpmigHdr.backBytes segment.sum
    rw [TcpMigHeader.frontBytes_length, ← List.append_assoc] at read
    exact read
  obtain ⟨source, dest, length, origin, client, offset, flags⟩ :=
    segment.tcpmigHdr.fields_eq segment.sum
  obtain ⟨stage, load, next⟩ := segment.tcpmigHdr.serializeFlagsAndStage_eq
  unfold TcpMigHeader.parse
  rw [if_neg long, if_neg (not_not.mpr magic)]
  dsimp only
  rw [front, behind, bytes, flags, stage, MigrationStage.ofU8_toU8]
  dsimp only
  rw [carried, source, dest, length, origin, client, offset, load, next]

/-- A message carries its own checksum. -/
theorem sum_eq (segment : TcpMigSegment) :
    TcpMigHeader.checksum segment.ipv4Hdr
      (segment.tcpmigHdr.serialize segment.ipv4Hdr segment.data) segment.data = segment.sum := by
  have six := segment.tcpmigHdr.frontBytes_length
  have covered (two : Buffer) (length : two.length = 2) :
      (segment.tcpmigHdr.frontBytes ++ two ++ segment.tcpmigHdr.backBytes).take 6 =
        segment.tcpmigHdr.frontBytes ∧
      (segment.tcpmigHdr.frontBytes ++ two ++ segment.tcpmigHdr.backBytes).drop 8 =
        segment.tcpmigHdr.backBytes := by
    constructor
    · rw [List.append_assoc]
      exact List.take_left' six
    · refine List.drop_left' ?_
      rw [List.length_append, six, length]
  obtain ⟨front, back⟩ := covered (bigEndian 2 segment.sum.toNat) (bigEndian_length _ _)
  obtain ⟨front', back'⟩ := covered [0, 0] rfl
  exact TcpMigHeader.checksum_congr (front.trans front'.symm) (back.trans back'.symm)

/-- A message that arrives as it was sent is accepted. -/
theorem parse_own (segment : TcpMigSegment) :
    TcpMigHeader.parse segment.ipv4Hdr segment.datagram = .ok (segment.tcpmigHdr, segment.data) := by
  rw [parse_eq, sum_eq, if_neg (fun mismatch => mismatch.2 rfl)]

end TcpMigSegment

end Capybara
