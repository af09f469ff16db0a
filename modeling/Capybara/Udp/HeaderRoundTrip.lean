import Capybara.Udp.TransportChecksums

/-!
# UDP datagrams and the marker of no checksum

A checksum field of zero says that no checksum has been computed, so a checksum that comes out
as zero is to be transmitted as all ones. `UdpHeader` transmits it as it is, and compares what
it receives with it as it is. Such a datagram is therefore sent as one without a checksum, and
refused if it comes from a sender that follows the convention.

What is written can be parsed in any case. The convention is followed exactly for the
datagrams whose covered words do not add up to a multiple of `0xFFFF`.
-/

namespace Capybara

open Wire TcpMigHeader InternetChecksum

namespace UdpHeader

variable {profile : Profile} {ipv4Hdr : Ipv4Header} {header : UdpHeader} {data datagram : Buffer}

/-- The checksum field that a datagram is to carry: the checksum, or all ones if it is zero. -/
def transmittedChecksum (ipv4Hdr : Ipv4Header) (datagram : Buffer) : UInt16 :=
  let computed := bytesChecksum (udpCovered ipv4Hdr datagram)
  if computed = 0 then 0xFFFF else UInt16.ofNat computed

/-- A datagram with the ports of a header and a payload, and with the right length. -/
structure IsDatagram (header : UdpHeader) (data datagram : Buffer) : Prop where
  minimal : UDP_HEADER_SIZE ≤ datagram.length
  source : readU16At datagram 0 = header.srcPort
  dest : readU16At datagram 2 = header.destPort
  length : (readU16At datagram 4).toNat = datagram.length
  payload : datagram.drop UDP_HEADER_SIZE = data

/-- What is written for a header and a payload carries a checksum and is parsed to them, and so
is every datagram with the checksum that it is to carry. -/
structure FollowsConvention (profile : Profile) (ipv4Hdr : Ipv4Header) (header : UdpHeader)
    (data : Buffer) : Prop where
  written : ∀ buf : Buffer, UDP_HEADER_SIZE ≤ buf.length →
    ∃ bytes, header.serialize profile buf ipv4Hdr data false = .ok bytes ∧ readU16At bytes 6 ≠ 0 ∧
      parse profile ipv4Hdr (bytes.take UDP_HEADER_SIZE ++ data) false = .ok (.ok (header, data))
  accepted : ∀ datagram, IsDatagram header data datagram →
    readU16At datagram 6 = transmittedChecksum ipv4Hdr datagram →
      parse profile ipv4Hdr datagram false = .ok (.ok (header, data))

/-- The bytes of a datagram with the given checksum field. -/
def layout (header : UdpHeader) (data : Buffer) (sum : UInt16) : Buffer :=
  header.frontBytes data ++ bigEndian 2 sum.toNat ++ data

/-- The sum of the words that the checksum covers. -/
def coveredSum (ipv4Hdr : Ipv4Header) (header : UdpHeader) (data : Buffer) : Nat :=
  (paddedWords (udpCovered ipv4Hdr (header.layout data 0))).sum

/-! ## The bytes of a datagram -/

/-- Six bytes stand in front of the checksum. -/
theorem frontBytes_length (header : UdpHeader) (data : Buffer) :
    (header.frontBytes data).length = 6 := by
  simp [frontBytes]

/-- A datagram has eight bytes of header. -/
theorem layout_length (header : UdpHeader) (data : Buffer) (sum : UInt16) :
    (header.layout data sum).length = UDP_HEADER_SIZE + data.length := by
  rw [layout, List.length_append, List.length_append, frontBytes_length, bigEndian_length]
  rfl

/-- The two bytes of the checksum are not covered. -/
theorem udpCovered_carried {two two' : Buffer} (size : two.length = 2) (size' : two'.length = 2) :
    udpCovered ipv4Hdr (header.frontBytes data ++ two ++ data) =
      udpCovered ipv4Hdr (header.frontBytes data ++ two' ++ data) := by
  have six := header.frontBytes_length data
  have covered {two : Buffer} (size : two.length = 2) :
      (header.frontBytes data ++ two ++ data).length = 8 + data.length ∧
      (header.frontBytes data ++ two ++ data).take 6 = header.frontBytes data ∧
      (header.frontBytes data ++ two ++ data).drop (6 + 2) = data := by
    refine ⟨by rw [List.length_append, List.length_append, six, size], ?_, ?_⟩
    · rw [List.append_assoc, List.take_left' six]
    · rw [List.drop_left' (by rw [List.length_append, six, size])]
  obtain ⟨length, front, back⟩ := covered size
  obtain ⟨length', front', back'⟩ := covered size'
  unfold udpCovered withoutChecksum
  rw [length, front, back, length', front', back']

/-- A datagram is laid out as it is written, with its own checksum. -/
theorem IsDatagram.layout_eq (formed : IsDatagram header data datagram) :
    datagram = header.layout data (readU16At datagram 6) := by
  obtain ⟨minimal, source, dest, length, payload⟩ := formed
  unfold UDP_HEADER_SIZE at minimal payload
  have total : datagram.length = 8 + data.length := by
    rw [← payload, List.length_drop]
    omega
  have sixteen (offset : Nat) (inside : offset + 2 ≤ 8) :=
    @bytes_readU16At datagram offset (inside.trans minimal)
  have number : (readU16At datagram 4).toNat = UDP_HEADER_SIZE + data.length := length.trans total
  have first := sixteen 0 (by decide)
  have second := sixteen 2 (by decide)
  have third := sixteen 4 (by decide)
  have fourth := sixteen 6 (by decide)
  rw [source] at first
  rw [dest] at second
  rw [number] at third
  have pieces : datagram = (datagram.drop 0).take 2 ++ (datagram.drop 2).take 2 ++
      (datagram.drop 4).take 2 ++ (datagram.drop 6).take 2 ++ datagram.drop 8 := by
    rw [List.drop_zero, ← List.take_add, ← List.take_add, ← List.take_add, List.take_append_drop]
  rw [first, second, third, fourth, payload] at pieces
  exact pieces

/-- The ports and the length at the places where they are read. -/
theorem isDatagram_layout (header : UdpHeader) {data : Buffer} (fits : data.length ≤ 65527)
    (sum : UInt16) :
    IsDatagram header data (header.layout data sum) ∧ readU16At (header.layout data sum) 6 = sum := by
  have length : UDP_HEADER_SIZE + data.length = (UInt16.ofNat (UDP_HEADER_SIZE + data.length)).toNat :=
    (UInt16.toNat_ofNat_of_lt' (by
      unfold UDP_HEADER_SIZE
      rw [UInt16.size]
      omega)).symm
  have size := layout_length header data sum
  have source := readU16At_eq [] (bigEndian 2 header.destPort.toNat ++
    bigEndian 2 (UDP_HEADER_SIZE + data.length) ++ bigEndian 2 sum.toNat ++ data) header.srcPort
  have dest := readU16At_eq (bigEndian 2 header.srcPort.toNat)
    (bigEndian 2 (UDP_HEADER_SIZE + data.length) ++ bigEndian 2 sum.toNat ++ data) header.destPort
  have counted := readU16At_eq (bigEndian 2 header.srcPort.toNat ++ bigEndian 2 header.destPort.toNat)
    (bigEndian 2 sum.toNat ++ data) (UInt16.ofNat (UDP_HEADER_SIZE + data.length))
  have carried := readU16At_eq (header.frontBytes data) data sum
  rw [← length] at counted
  rw [frontBytes_length] at carried
  simp only [List.append_assoc, List.length_append, List.length_nil, bigEndian_length,
    List.nil_append, Nat.reduceAdd] at source dest counted
  constructor
  · constructor
    case minimal =>
      rw [size]
      exact Nat.le_add_right _ _
    case source =>
      simpa only [layout, frontBytes, List.append_assoc] using source
    case dest =>
      simpa only [layout, frontBytes, List.append_assoc] using dest
    case length =>
      rw [size]
      simp only [layout, frontBytes, List.append_assoc]
      rw [counted]
      exact length.symm
    case payload =>
      exact List.drop_left' (by rw [List.length_append, frontBytes_length, bigEndian_length]; rfl)
  · simpa only [layout, List.append_assoc] using carried

/-! ## The checksum of a datagram -/

/-- All datagrams with the same ports and payload have the same checksum. -/
theorem IsDatagram.covered (formed : IsDatagram header data datagram) (ipv4Hdr : Ipv4Header) :
    udpCovered ipv4Hdr datagram = udpCovered ipv4Hdr (header.layout data 0) := by
  rw [formed.layout_eq]
  exact udpCovered_carried (bigEndian_length _ _) (bigEndian_length _ _)

/-- The checksum is zero if the words add up to a multiple of `0xFFFF`. -/
theorem checksum_zero_iff (fits : data.length ≤ 65527) :
    bytesChecksum (udpCovered ipv4Hdr (header.layout data 0)) = 0 ↔
      coveredSum ipv4Hdr header data % 0xFFFF = 0 := by
  have small := paddedWords_small (udpCovered ipv4Hdr (header.layout data 0))
  have below := onesSum_le small
  have full := onesSum_full_iff small
  have positive : coveredSum ipv4Hdr header data ≠ 0 := by
    refine covered_positive ipv4Hdr (by decide) (by decide) ?_ _
    rw [layout_length]
    unfold UDP_HEADER_SIZE
    omega
  rw [← coveredSum] at full
  rw [bytesChecksum, InternetChecksum.checksum]
  omega

/-- The number that is computed. -/
theorem checksum_number (ipv4Hdr : Ipv4Header) (datagram : Buffer) :
    (UInt16.ofNat (bytesChecksum (udpCovered ipv4Hdr datagram))).toNat =
      bytesChecksum (udpCovered ipv4Hdr datagram) :=
  UInt16.toNat_ofNat_of_lt' (Nat.lt_succ_of_le (bytesChecksum_le _))

/-- A header is written in front of what is behind it, with the checksum as it is. -/
theorem serialize_eq (profile : Profile) (ipv4Hdr : Ipv4Header) (header : UdpHeader)
    {buf : Buffer} (room : UDP_HEADER_SIZE ≤ buf.length) (fits : data.length ≤ 65527) :
    header.serialize profile buf ipv4Hdr data false =
      .ok (header.frontBytes data ++
        bigEndian 2 (bytesChecksum (udpCovered ipv4Hdr (header.layout data 0))) ++
        buf.drop UDP_HEADER_SIZE) := by
  have garbage : ((buf.drop 6).take 2).length = 2 := by
    unfold UDP_HEADER_SIZE at room
    rw [List.length_take, List.length_drop]
    omega
  have size : (header.frontBytes data ++ (buf.drop 6).take 2).length = UDP_HEADER_SIZE := by
    rw [List.length_append, frontBytes_length, garbage]
    rfl
  have computed := udpChecksum_internet profile ipv4Hdr size (by
    rw [size]
    unfold UDP_HEADER_SIZE
    omega : _ + data.length < 2 ^ 16)
  rw [udpCovered_carried garbage (bigEndian_length 2 (0 : UInt16).toNat)] at computed
  rw [serialize, if_neg (Nat.not_lt_of_le room), if_neg Bool.false_ne_true, computed]
  dsimp only [bind, Except.bind]
  rw [checksum_number]
  rfl

/-- A datagram is accepted without a checksum or with the one computed. -/
theorem parse_eq (profile : Profile) (ipv4Hdr : Ipv4Header)
    (formed : IsDatagram header data datagram) :
    parse profile ipv4Hdr datagram false =
      if readU16At datagram 6 = 0 ∨ (readU16At datagram 6).toNat =
          bytesChecksum (udpCovered ipv4Hdr (header.layout data 0)) then .ok (.ok (header, data))
      else .ok (.error ⟨.EBADMSG, "UDP checksum mismatch"⟩) := by
  have covered := formed.covered ipv4Hdr
  obtain ⟨minimal, source, dest, length, payload⟩ := formed
  have small := (readU16At datagram 4).toNat_lt
  have computed := checksum_datagram profile ipv4Hdr minimal (by rwa [← length])
  have number := checksum_number ipv4Hdr datagram
  rw [covered] at computed number
  generalize UInt16.ofNat (bytesChecksum (udpCovered ipv4Hdr (header.layout data 0))) = sum
    at computed number
  have taken (offset : Nat) (inside : offset + 2 ≤ 8) :
      readU16At (datagram.take UDP_HEADER_SIZE) offset = readU16At datagram offset :=
    readU16At_take inside
  unfold parse
  dsimp only
  rw [if_neg (Nat.not_lt_of_le minimal), taken 0 (by decide), taken 2 (by decide),
    taken 4 (by decide), taken 6 (by decide), if_neg (not_not.mpr length),
    if_neg Bool.false_ne_true, computed, source, dest, payload, ← number]
  by_cases unmarked : readU16At datagram 6 = 0
  · rw [if_pos unmarked, if_pos (.inl unmarked)]
    rfl
  · rw [if_neg unmarked]
    by_cases same : readU16At datagram 6 = sum
    · rw [if_pos (.inr (congrArg _ same))]
      simp [same, bind, Except.bind]
    · rw [if_neg (not_or.mpr ⟨unmarked, mt UInt16.toNat_inj.mp same⟩)]
      simp [same, bind, Except.bind]

/-! ## The convention -/

/-- What is written is always parsed to what it was written for. -/
theorem parse_written (profile : Profile) (ipv4Hdr : Ipv4Header) (header : UdpHeader)
    {buf : Buffer} (room : UDP_HEADER_SIZE ≤ buf.length) (fits : data.length ≤ 65527) :
    ∃ bytes, header.serialize profile buf ipv4Hdr data false = .ok bytes ∧
      (readU16At bytes 6).toNat = bytesChecksum (udpCovered ipv4Hdr (header.layout data 0)) ∧
      parse profile ipv4Hdr (bytes.take UDP_HEADER_SIZE ++ data) false =
        .ok (.ok (header, data)) := by
  have number := checksum_number ipv4Hdr (header.layout data 0)
  generalize computed : UInt16.ofNat
    (bytesChecksum (udpCovered ipv4Hdr (header.layout data 0))) = sum at number
  obtain ⟨formed, carried⟩ := isDatagram_layout header fits sum
  have parsed := parse_eq profile ipv4Hdr formed
  have read := readU16At_eq (header.frontBytes data) (buf.drop UDP_HEADER_SIZE) sum
  rw [frontBytes_length, ← List.append_assoc] at read
  rw [carried, ← number, if_pos (.inr rfl)] at parsed
  refine ⟨_, serialize_eq profile ipv4Hdr header room fits, ?_, ?_⟩
  · rw [← number, read]
  · rw [← number, List.take_left' (by
      rw [List.length_append, frontBytes_length, bigEndian_length]
      rfl)]
    exact parsed

/-- The UDP codec. For every pair of addresses, pair of ports and payload that fits a datagram,
the convention about the checksum field is followed, and what is written or is sent by others
is parsed to the same ports and payload, if and only if the covered words do not add up to a
multiple of `0xFFFF`.

Proof: the checksum that is computed is zero exactly for the sums that are excluded.
There what is written is marked as having no checksum, against the convention;
everywhere else the field is that of the convention, and is verified by the same sum. -/
theorem followsConvention_iff (profile : Profile) (ipv4Hdr : Ipv4Header) (header : UdpHeader)
    (fits : data.length ≤ 65527) :
    FollowsConvention profile ipv4Hdr header data ↔
      coveredSum ipv4Hdr header data % 0xFFFF ≠ 0 := by
  rw [Ne, ← checksum_zero_iff fits]
  constructor
  · intro follows zero
    have room : UDP_HEADER_SIZE ≤ (header.layout data 0).length := by
      rw [layout_length]
      exact Nat.le_add_right _ _
    obtain ⟨bytes, serialized, marked, -⟩ := follows.written _ room
    obtain ⟨bytes', serialized', carried, -⟩ := parse_written profile ipv4Hdr header room fits
    cases serialized.symm.trans serialized'
    exact marked (UInt16.toNat_inj.mp (carried.trans zero))
  · intro some
    constructor
    · intro buf room
      obtain ⟨bytes, serialized, carried, parsed⟩ :=
        parse_written profile ipv4Hdr header room fits
      refine ⟨bytes, serialized, ?_, parsed⟩
      intro unmarked
      rw [unmarked] at carried
      exact some carried.symm
    · intro datagram formed right
      rw [transmittedChecksum, formed.covered ipv4Hdr, if_neg some] at right
      have computed := (congrArg UInt16.toNat right).trans (checksum_number ipv4Hdr _)
      rw [parse_eq profile ipv4Hdr formed, if_pos (.inr computed)]

/-- A datagram with three bytes of payload from port 1 to port 2. -/
theorem followsConvention_payload : FollowsConvention .dev ⟨1, 2⟩ ⟨1, 2⟩ [7, 8, 9] :=
  (followsConvention_iff .dev ⟨1, 2⟩ ⟨1, 2⟩ (by decide)).mpr (by decide)

/-- With two bytes of payload that fill the sum up, the checksum is zero. -/
theorem not_followsConvention :
    ¬ ∀ (profile : Profile) (ipv4Hdr : Ipv4Header) (header : UdpHeader) (data : Buffer),
      data.length ≤ 65527 → FollowsConvention profile ipv4Hdr header data := by
  intro claimed
  have follows := claimed .dev ⟨1, 2⟩ ⟨1, 2⟩ [0xFF, 0xD4] (by decide)
  obtain ⟨bytes, serialized, marked, -⟩ := follows.written (List.replicate 8 0) (by decide)
  rw [serialize_eq .dev ⟨1, 2⟩ ⟨1, 2⟩ (by decide) (by decide)] at serialized
  cases serialized
  exact absurd marked (by decide)

end UdpHeader

end Capybara
