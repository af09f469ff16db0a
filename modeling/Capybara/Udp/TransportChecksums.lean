import Capybara.Lib.InternetChecksum
import Capybara.Tcp.OptionGrammar
import Capybara.Udp.Header

/-!
# The checksums of TCP and UDP

Both start from `0xFFFF`, add the words of the pseudo header, of the header around its
checksum and of the data without carries, and take off `0xFFFF` while the sum is above it.
As the protocol number is one of the words, the sum is not zero, and what is left is the
one's complement sum. So both return the Internet checksum of the covered bytes.

A receiver computes it over other bytes if a word of the covered ones has changed by
anything but a multiple of `0xFFFF`, and then refuses the segment.
-/

namespace Capybara

open Wire TcpMigHeader InternetChecksum

/-- The pseudo header: the addresses, a zero, the protocol and the length. -/
def pseudoHeader (ipv4Hdr : Ipv4Header) (protocol length : Nat) : Buffer :=
  octets ipv4Hdr.srcAddr ++ octets ipv4Hdr.destAddr ++ [0, UInt8.ofNat protocol] ++
    bigEndian 2 length

/-- The bytes of a segment with zeros in place of its checksum. -/
def withoutChecksum (position : Nat) (bytes : Buffer) : Buffer :=
  bytes.take position ++ [0, 0] ++ bytes.drop (position + 2)

/-- The bytes that the checksum of a TCP segment covers. -/
def tcpCovered (ipv4Hdr : Ipv4Header) (segment : Buffer) : Buffer :=
  pseudoHeader ipv4Hdr IP_PROTOCOL_TCP segment.length ++ withoutChecksum 16 segment

/-- The bytes that the checksum of a UDP datagram covers. -/
def udpCovered (ipv4Hdr : Ipv4Header) (datagram : Buffer) : Buffer :=
  pseudoHeader ipv4Hdr IP_PROTOCOL_UDP datagram.length ++ withoutChecksum 6 datagram

/-! ## The covered words -/

/-- The words of the pseudo header. -/
theorem pseudoHeader_sum (ipv4Hdr : Ipv4Header) {protocol length : Nat} (known : protocol < 256)
    (fits : length < 2 ^ 16) :
    (paddedWords (pseudoHeader ipv4Hdr protocol length)).sum =
      ((words (octets ipv4Hdr.srcAddr) ++ words (octets ipv4Hdr.destAddr)).map UInt16.toNat).sum +
        protocol + length := by
  have source : (octets ipv4Hdr.srcAddr).length = 4 := bigEndian_length _ _
  have dest : (octets ipv4Hdr.destAddr).length = 4 := bigEndian_length _ _
  have protocolWord : paddedWords [0, UInt8.ofNat protocol] = [protocol] := by
    rw [paddedWords, UInt8.toNat_ofNat_of_lt' known]
    simp [paddedWords]
  unfold pseudoHeader
  rw [paddedWords_append (by simp [source, dest]), paddedWords_append (by simp [source, dest]),
    paddedWords_append (by simp [source]), ← words_even (by simp [source]),
    ← words_even (by simp [dest]), protocolWord, paddedWords_bigEndian fits]
  simp only [List.map_append, List.sum_append, List.sum_singleton]

/-- The pseudo header has whole words. -/
theorem pseudoHeader_even (ipv4Hdr : Ipv4Header) (protocol length : Nat) :
    (pseudoHeader ipv4Hdr protocol length).length % 2 = 0 := by
  simp [pseudoHeader, octets]

/-- The words of bytes without their checksum, which stands among the first, even ones. -/
theorem withoutChecksum_sum {position : Nat} {header : Buffer} (even : header.length % 2 = 0)
    (inside : position + 2 ≤ header.length) (aligned : position % 2 = 0) (data : Buffer) :
    (paddedWords (withoutChecksum position (header ++ data))).sum =
      (paddedWords (header.take position)).sum + (paddedWords (header.drop (position + 2))).sum +
        (paddedWords data).sum := by
  have front : (header.take position).length = position := by
    rw [List.length_take]
    omega
  have behind : (header.drop (position + 2)).length % 2 = 0 := by
    rw [List.length_drop]
    omega
  unfold withoutChecksum
  rw [List.take_append_of_le_length (by omega), List.drop_append_of_le_length inside,
    paddedWords_append (by rw [List.length_append, front, List.length_cons]; simp [aligned]),
    paddedWords_append (by rw [front, aligned]), paddedWords_append behind]
  simp only [List.sum_append, paddedWords]
  simp [Nat.add_assoc]

/-- What `tcp_checksum` adds up is the sum of the covered words. -/
theorem tcpWords_sum (ipv4Hdr : Ipv4Header) {header data : Buffer}
    (minimal : MIN_TCP_HEADER_SIZE ≤ header.length) (even : header.length % 2 = 0)
    (fits : header.length + data.length < 2 ^ 16) :
    (checksumWords ipv4Hdr header data).sum =
      (paddedWords (tcpCovered ipv4Hdr (header ++ data))).sum := by
  have urgentSize : ((header.take MIN_TCP_HEADER_SIZE).drop 18).length % 2 = 0 := by
    rw [List.length_drop, List.length_take, Nat.min_eq_left minimal]
    rfl
  have options : (paddedWords (header.drop (16 + 2))).sum =
      ((words ((header.take MIN_TCP_HEADER_SIZE).drop 18)).map UInt16.toNat).sum +
        ((words (header.drop MIN_TCP_HEADER_SIZE)).map UInt16.toNat).sum := by
    have split : header.drop (16 + 2) =
        (header.take MIN_TCP_HEADER_SIZE).drop 18 ++ header.drop MIN_TCP_HEADER_SIZE := by
      have whole := List.take_append_drop 2 (header.drop 18)
      rw [List.drop_drop] at whole
      rw [List.drop_take]
      exact whole.symm
    rw [words_even urgentSize, words_even (by
        rw [List.length_drop]
        unfold MIN_TCP_HEADER_SIZE
        omega), split, paddedWords_append urgentSize, List.sum_append]
  have front : (words (header.take 16)).map UInt16.toNat = paddedWords (header.take 16) := by
    refine words_even ?_
    unfold MIN_TCP_HEADER_SIZE at minimal
    rw [List.length_take, Nat.min_eq_left (by omega)]
  have body := words_data data
  unfold tcpCovered
  rw [paddedWords_append (pseudoHeader_even _ _ _), List.sum_append,
    pseudoHeader_sum ipv4Hdr (by decide) (by rw [List.length_append]; exact fits),
    withoutChecksum_sum even (by unfold MIN_TCP_HEADER_SIZE at minimal; omega) rfl, options, ← front,
    ← body, List.length_append]
  have length : asU32 (header.length + data.length) = header.length + data.length :=
    Nat.mod_eq_of_lt (by omega)
  unfold checksumWords
  rw [length]
  simp only [List.map_append, List.sum_append, List.sum_cons, List.sum_nil]
  omega

/-- What the checksum of UDP adds up is the sum of the covered words. -/
theorem udpWords_sum (ipv4Hdr : Ipv4Header) {udpHdr data : Buffer}
    (size : udpHdr.length = UDP_HEADER_SIZE) (fits : udpHdr.length + data.length < 2 ^ 16) :
    (UdpHeader.checksumWords ipv4Hdr udpHdr data).sum =
      (paddedWords (udpCovered ipv4Hdr (udpHdr ++ data))).sum := by
  unfold UDP_HEADER_SIZE at size
  have front : (words (udpHdr.take 6)).map UInt16.toNat = paddedWords (udpHdr.take 6) := by
    refine words_even ?_
    rw [List.length_take, size]
    rfl
  have body := words_data data
  have behind : paddedWords (udpHdr.drop (6 + 2)) = [] := by
    rw [List.drop_eq_nil_of_le (by omega)]
    rfl
  unfold udpCovered
  rw [paddedWords_append (pseudoHeader_even _ _ _), List.sum_append,
    pseudoHeader_sum ipv4Hdr (by decide) (by rw [List.length_append]; exact fits),
    withoutChecksum_sum (by omega) (by omega) rfl, behind, ← front, ← body, List.length_append]
  have length : asU32 (udpHdr.length + data.length) = udpHdr.length + data.length :=
    Nat.mod_eq_of_lt (by omega)
  unfold UdpHeader.checksumWords
  rw [length]
  simp only [List.map_append, List.sum_append, List.sum_cons, List.sum_nil]
  omega

/-! ## The checksums -/

/-- Each sum has the protocol number among its words. -/
theorem covered_positive (ipv4Hdr : Ipv4Header) {protocol length : Nat} (known : protocol < 256)
    (positive : 0 < protocol) (fits : length < 2 ^ 16) (bytes : Buffer) :
    (paddedWords (pseudoHeader ipv4Hdr protocol length ++ bytes)).sum ≠ 0 := by
  rw [paddedWords_append (pseudoHeader_even _ _ _), List.sum_append,
    pseudoHeader_sum ipv4Hdr known fits]
  omega

/-- `tcp_checksum` is the Internet checksum of the covered bytes. -/
theorem tcpChecksum_internet (profile : Profile) (ipv4Hdr : Ipv4Header) {header data : Buffer}
    (minimal : MIN_TCP_HEADER_SIZE ≤ header.length) (even : header.length % 2 = 0)
    (fits : header.length + data.length < 2 ^ 16) :
    tcpChecksum profile ipv4Hdr header data =
      .ok (UInt16.ofNat (bytesChecksum (tcpCovered ipv4Hdr (header ++ data)))) := by
  rw [tcpChecksum, if_neg (Nat.not_lt_of_le minimal), if_neg (fun odd => odd.2 even)]
  refine summed_internet profile (checksumWords_small ipv4Hdr fits)
    (checksumWords_few ipv4Hdr minimal fits) (tcpWords_sum ipv4Hdr minimal even fits) ?_
  refine covered_positive ipv4Hdr (by decide) (by decide) ?_ _
  rw [List.length_append]
  exact fits

/-- The checksum of UDP is the Internet checksum of the covered bytes. -/
theorem udpChecksum_internet (profile : Profile) (ipv4Hdr : Ipv4Header) {udpHdr data : Buffer}
    (size : udpHdr.length = UDP_HEADER_SIZE) (fits : udpHdr.length + data.length < 2 ^ 16) :
    UdpHeader.checksum profile ipv4Hdr udpHdr data =
      .ok (UInt16.ofNat (bytesChecksum (udpCovered ipv4Hdr (udpHdr ++ data)))) := by
  rw [UdpHeader.checksum, if_neg (not_not.mpr size)]
  refine summed_internet profile ?_ ?_ (udpWords_sum ipv4Hdr size fits) ?_
  · intro number member
    simp only [UdpHeader.checksumWords, List.mem_append, List.mem_map, List.mem_cons,
      List.not_mem_nil, or_false] at member
    obtain (⟨word, -, rfl⟩ | rfl | rfl) | ⟨word, -, rfl⟩ := member
    · exact Nat.le_of_lt_succ word.toNat_lt
    · decide
    · exact Nat.le_trans (Nat.mod_le _ _) (Nat.le_of_lt_succ fits)
    · exact Nat.le_of_lt_succ word.toNat_lt
  · have source := words_length (octets ipv4Hdr.srcAddr)
    have dest := words_length (octets ipv4Hdr.destAddr)
    have front := words_length (udpHdr.take 6)
    have body := words_length data
    have last := words_length (lastWord data)
    have padded := lastWord_length data
    simp only [octets, bigEndian_length, List.length_take, UDP_HEADER_SIZE] at source dest front size
    simp only [UdpHeader.checksumWords, List.length_append, List.length_map, List.length_cons,
      List.length_nil, octets]
    omega
  · refine covered_positive ipv4Hdr (by decide) (by decide) ?_ _
    rw [List.length_append]
    exact fits

/-! ## Changes are noticed -/

/-- The Internet checksum as a 16-bit number tells apart what its number does. -/
theorem bytesChecksum_ne {covered covered' : Buffer}
    (differs : OneWordDiffers (paddedWords covered) (paddedWords covered')) :
    UInt16.ofNat (bytesChecksum covered) ≠ UInt16.ofNat (bytesChecksum covered') := by
  intro same
  have fits (bytes : Buffer) : bytesChecksum bytes < UInt16.size :=
    Nat.lt_succ_of_le (bytesChecksum_le bytes)
  have numbers := congrArg UInt16.toNat same
  rw [UInt16.toNat_ofNat_of_lt' (fits covered), UInt16.toNat_ofNat_of_lt' (fits covered')] at numbers
  exact checksum_ne (paddedWords_small _) (paddedWords_small _) differs numbers

namespace TcpHeader

variable {profile : Profile} {ipv4Hdr : Ipv4Header} {buf : Buffer}

/-- The checksum that a segment is verified against. -/
theorem tcpChecksum_segment (profile : Profile) (ipv4Hdr : Ipv4Header)
    (possible : PossibleOffset buf) (fits : buf.length < 2 ^ 16) :
    tcpChecksum profile ipv4Hdr (buf.take (dataOffset buf)) (buf.drop (dataOffset buf)) =
      .ok (UInt16.ofNat (bytesChecksum (tcpCovered ipv4Hdr buf))) := by
  have size : (buf.take (dataOffset buf)).length = dataOffset buf :=
    List.length_take_of_le possible.inside
  have total : (buf.take (dataOffset buf)).length + (buf.drop (dataOffset buf)).length =
      buf.length := by
    rw [← List.length_append, List.take_append_drop]
  have whole := @tcpChecksum_internet profile ipv4Hdr (buf.take (dataOffset buf))
    (buf.drop (dataOffset buf)) (by rw [size]; exact possible.aboveHeader)
    (by rw [size, dataOffset]; omega) (by rw [total]; exact fits)
  rwa [List.take_append_drop] at whole

/-- A segment that is accepted carries the Internet checksum of what it covers. -/
theorem parse_verified {accepted : TcpHeader × Buffer} (fits : buf.length < 2 ^ 16)
    (parsed : parse profile ipv4Hdr buf false = .ok (.ok accepted)) :
    readU16At buf 16 = UInt16.ofNat (bytesChecksum (tcpCovered ipv4Hdr buf)) := by
  by_cases possible : PossibleOffset buf
  · rw [parse_possible profile ipv4Hdr false possible, parseArea,
      tcpChecksum_segment profile ipv4Hdr possible fits] at parsed
    have header : MIN_TCP_HEADER_SIZE ≤ dataOffset buf := possible.aboveHeader
    unfold MIN_TCP_HEADER_SIZE at header
    rw [readU16At_take (by omega)] at parsed
    by_contra different
    simp [different, bind, Except.bind] at parsed
  · obtain ⟨failure, refused⟩ := parse_impossible profile ipv4Hdr false possible
    rw [refused] at parsed
    cases parsed

/-- A segment that carries another checksum is refused. -/
theorem parse_refuses (fits : buf.length < 2 ^ 16)
    (different : readU16At buf 16 ≠ UInt16.ofNat (bytesChecksum (tcpCovered ipv4Hdr buf))) :
    ∃ failure, parse profile ipv4Hdr buf false = .ok (.error failure) := by
  obtain ⟨outcome, returned⟩ := parse_returns profile ipv4Hdr fits false
  cases outcome with
  | error failure => exact ⟨failure, returned⟩
  | ok accepted => exact absurd (parse_verified fits returned) different

end TcpHeader

namespace UdpHeader

variable {profile : Profile} {ipv4Hdr : Ipv4Header} {buf : Buffer}

/-- The checksum that a datagram is verified against. -/
theorem checksum_datagram (profile : Profile) (ipv4Hdr : Ipv4Header)
    (minimal : UDP_HEADER_SIZE ≤ buf.length) (fits : buf.length < 2 ^ 16) :
    checksum profile ipv4Hdr (buf.take UDP_HEADER_SIZE) (buf.drop UDP_HEADER_SIZE) =
      .ok (UInt16.ofNat (bytesChecksum (udpCovered ipv4Hdr buf))) := by
  have total : (buf.take UDP_HEADER_SIZE).length + (buf.drop UDP_HEADER_SIZE).length =
      buf.length := by
    rw [← List.length_append, List.take_append_drop]
  have whole := @udpChecksum_internet profile ipv4Hdr (buf.take UDP_HEADER_SIZE)
    (buf.drop UDP_HEADER_SIZE) (List.length_take_of_le minimal) (by rw [total]; exact fits)
  rwa [List.take_append_drop] at whole

/-- A datagram that carries a checksum other than zero and other than the Internet checksum
of what it covers is refused. -/
theorem parse_refuses (fits : buf.length < 2 ^ 16) (some : readU16At buf 6 ≠ 0)
    (different : readU16At buf 6 ≠ UInt16.ofNat (bytesChecksum (udpCovered ipv4Hdr buf))) :
    ∃ failure, parse profile ipv4Hdr buf false = .ok (.error failure) := by
  unfold parse
  dsimp only
  split
  · exact ⟨_, rfl⟩
  rename_i minimal
  split
  · exact ⟨_, rfl⟩
  have received : readU16At (buf.take UDP_HEADER_SIZE) 6 = readU16At buf 6 :=
    readU16At_take (Nat.le_refl 8)
  rw [received, if_neg Bool.false_ne_true, if_neg some,
    checksum_datagram profile ipv4Hdr (Nat.le_of_not_lt minimal) fits]
  simp [different, bind, Except.bind]

/-- A datagram that is accepted carries the Internet checksum of what it covers, or zero. -/
theorem parse_verified {accepted : UdpHeader × Buffer} (fits : buf.length < 2 ^ 16)
    (parsed : parse profile ipv4Hdr buf false = .ok (.ok accepted)) (some : readU16At buf 6 ≠ 0) :
    readU16At buf 6 = UInt16.ofNat (bytesChecksum (udpCovered ipv4Hdr buf)) := by
  by_contra different
  obtain ⟨failure, refused⟩ := @parse_refuses profile ipv4Hdr buf fits some different
  rw [refused] at parsed
  cases parsed

end UdpHeader

/-! ## Both checksums -/

/-- A header with data as `tcp_checksum` is given them: a TCP header has an even number of
bytes, and what it stands in fits a datagram. -/
structure TcpParts (header data : Buffer) : Prop where
  minimal : MIN_TCP_HEADER_SIZE ≤ header.length
  even : header.length % 2 = 0
  fits : header.length + data.length ≤ 65535

/-- A header with data as `UdpHeader::checksum` is given them. -/
structure UdpParts (header data : Buffer) : Prop where
  size : header.length = UDP_HEADER_SIZE
  fits : header.length + data.length ≤ 65535

/-- The checksums of TCP and UDP are the Internet checksum of what they cover, and are
computed without overflow. They are different if a covered word has changed by anything but
a multiple of `0xFFFF`, and then a segment that was accepted is refused, for UDP if it
carries a checksum.

Proof: both functions fold the words of what they cover as the Internet checksum does,
and the lengths keep every sum within 32 bits. A single changed word changes the sum
modulo `0xFFFF`, and a checksum that was right for the one is then not right for the
other. -/
theorem transport_checksums (profile : Profile) :
    (∀ ipv4Hdr header data, TcpParts header data →
      tcpChecksum profile ipv4Hdr header data =
        .ok (UInt16.ofNat (bytesChecksum (tcpCovered ipv4Hdr (header ++ data))))) ∧
    (∀ ipv4Hdr header data, UdpParts header data →
      UdpHeader.checksum profile ipv4Hdr header data =
        .ok (UInt16.ofNat (bytesChecksum (udpCovered ipv4Hdr (header ++ data))))) ∧
    (∀ ipv4Hdr ipv4Hdr' header header' data data', TcpParts header data → TcpParts header' data' →
      OneWordDiffers (paddedWords (tcpCovered ipv4Hdr (header ++ data)))
        (paddedWords (tcpCovered ipv4Hdr' (header' ++ data'))) →
      tcpChecksum profile ipv4Hdr header data ≠ tcpChecksum profile ipv4Hdr' header' data') ∧
    (∀ ipv4Hdr ipv4Hdr' header header' data data', UdpParts header data → UdpParts header' data' →
      OneWordDiffers (paddedWords (udpCovered ipv4Hdr (header ++ data)))
        (paddedWords (udpCovered ipv4Hdr' (header' ++ data'))) →
      UdpHeader.checksum profile ipv4Hdr header data ≠
        UdpHeader.checksum profile ipv4Hdr' header' data') ∧
    (∀ ipv4Hdr ipv4Hdr' buf buf' accepted, buf.length ≤ 65535 → buf'.length ≤ 65535 →
      TcpHeader.parse profile ipv4Hdr buf false = .ok (.ok accepted) →
      readU16At buf' 16 = readU16At buf 16 →
      OneWordDiffers (paddedWords (tcpCovered ipv4Hdr buf))
        (paddedWords (tcpCovered ipv4Hdr' buf')) →
      ∃ failure, TcpHeader.parse profile ipv4Hdr' buf' false = .ok (.error failure)) ∧
    (∀ ipv4Hdr ipv4Hdr' buf buf' accepted, buf.length ≤ 65535 → buf'.length ≤ 65535 →
      UdpHeader.parse profile ipv4Hdr buf false = .ok (.ok accepted) →
      readU16At buf' 6 = readU16At buf 6 → readU16At buf 6 ≠ 0 →
      OneWordDiffers (paddedWords (udpCovered ipv4Hdr buf))
        (paddedWords (udpCovered ipv4Hdr' buf')) →
      ∃ failure, UdpHeader.parse profile ipv4Hdr' buf' false = .ok (.error failure)) := by
  have tcp (ipv4Hdr : Ipv4Header) {header data : Buffer} (parts : TcpParts header data) :=
    tcpChecksum_internet profile ipv4Hdr parts.minimal parts.even (Nat.lt_succ_of_le parts.fits)
  have udp (ipv4Hdr : Ipv4Header) {header data : Buffer} (parts : UdpParts header data) :=
    udpChecksum_internet profile ipv4Hdr parts.size (Nat.lt_succ_of_le parts.fits)
  refine ⟨fun ipv4Hdr _ _ => tcp ipv4Hdr, fun ipv4Hdr _ _ => udp ipv4Hdr, ?_, ?_, ?_, ?_⟩
  · intro ipv4Hdr ipv4Hdr' header header' data data' parts parts' differs same
    rw [tcp ipv4Hdr parts, tcp ipv4Hdr' parts'] at same
    exact bytesChecksum_ne differs (Except.ok.inj same)
  · intro ipv4Hdr ipv4Hdr' header header' data data' parts parts' differs same
    rw [udp ipv4Hdr parts, udp ipv4Hdr' parts'] at same
    exact bytesChecksum_ne differs (Except.ok.inj same)
  · intro ipv4Hdr ipv4Hdr' buf buf' accepted fits fits' parsed received differs
    refine TcpHeader.parse_refuses (Nat.lt_succ_of_le fits') ?_
    rw [received, TcpHeader.parse_verified (Nat.lt_succ_of_le fits) parsed]
    exact bytesChecksum_ne differs
  · intro ipv4Hdr ipv4Hdr' buf buf' accepted fits fits' parsed received some differs
    refine UdpHeader.parse_refuses (Nat.lt_succ_of_le fits') (by rw [received]; exact some) ?_
    rw [received, UdpHeader.parse_verified (Nat.lt_succ_of_le fits) parsed some]
    exact bytesChecksum_ne differs

/-- A segment and a datagram with three bytes of payload between the addresses 1 and 2 are
accepted, and refused when their last byte has changed on the way. -/
theorem transport_checksums_corrupted :
    let segment (last : UInt8) : Buffer :=
      [0, 80, 0, 90, 0, 0, 0, 1, 0, 0, 0, 2, 0x50, 16, 4, 0, 0x9B, 0x1A, 0, 0, 7, 8, last]
    let datagram (last : UInt8) : Buffer := [0, 80, 0, 90, 0, 11, 0xEF, 0x23, 7, 8, last]
    ((∃ accepted, TcpHeader.parse .dev ⟨1, 2⟩ (segment 9) false = .ok (.ok accepted)) ∧
      ∃ failure, TcpHeader.parse .dev ⟨1, 2⟩ (segment 10) false = .ok (.error failure)) ∧
    (∃ accepted, UdpHeader.parse .dev ⟨1, 2⟩ (datagram 9) false = .ok (.ok accepted)) ∧
      ∃ failure, UdpHeader.parse .dev ⟨1, 2⟩ (datagram 10) false = .ok (.error failure) := by
  intro segment datagram
  obtain ⟨-, -, -, -, tcp, udp⟩ := transport_checksums .dev
  have segment_differs : OneWordDiffers (paddedWords (tcpCovered ⟨1, 2⟩ (segment 9)))
      (paddedWords (tcpCovered ⟨1, 2⟩ (segment 10))) :=
    ⟨(paddedWords (tcpCovered ⟨1, 2⟩ (segment 9))).dropLast, 0x0900, 0x0A00, [], by decide⟩
  have datagram_differs : OneWordDiffers (paddedWords (udpCovered ⟨1, 2⟩ (datagram 9)))
      (paddedWords (udpCovered ⟨1, 2⟩ (datagram 10))) :=
    ⟨(paddedWords (udpCovered ⟨1, 2⟩ (datagram 9))).dropLast, 0x0900, 0x0A00, [], by decide⟩
  have accepted : TcpHeader.parse .dev ⟨1, 2⟩ (segment 9) false = .ok (.ok ({ TcpHeader.new 80 90 with
      seqNum := SeqNumber.ofU32 1
      ackNum := SeqNumber.ofU32 2
      ack := true
      windowSize := 1024 }, [7, 8, 9])) := by decide +kernel
  have accepted' : UdpHeader.parse .dev ⟨1, 2⟩ (datagram 9) false =
      .ok (.ok (⟨80, 90⟩, [7, 8, 9])) := by decide +kernel
  refine ⟨⟨⟨_, accepted⟩, ?_⟩, ⟨_, accepted'⟩, ?_⟩
  · exact tcp ⟨1, 2⟩ ⟨1, 2⟩ (segment 9) (segment 10) _ (by decide) (by decide) accepted (by decide)
      segment_differs
  · exact udp ⟨1, 2⟩ ⟨1, 2⟩ (datagram 9) (datagram 10) _ (by decide) (by decide) accepted'
      (by decide) (by decide) datagram_differs

end Capybara
