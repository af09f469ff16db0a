import Capybara.Ethernet2.Frame
import Capybara.Ip.DatagramRoundTrip
import Capybara.Tcp.OptionGrammar

/-!
# Packets that are written again

The switch parses a packet, gives its headers other addresses and ports and transmits them in
front of the payload, with `TcpSegment::write_header`. Three things can go wrong. The IPv4 header
is written without its options but with the header length that was parsed. A TCP header whose
options fill all forty bytes becomes longer than a data offset can say. And the byte that ends
the options, which need not have been there, can make the datagram longer than 65535 bytes.
-/

namespace Capybara

open Wire TcpMigHeader

/-- `TcpSegment` as a packet buffer, with its headers in full. -/
structure TcpPacketBuf where
  ethernet2Hdr : Ethernet2Header
  ipv4Hdr : Ipv4DatagramHeader
  tcpHdr : TcpHeader
  data : Option Buffer
  txChecksumOffload : Bool
  deriving DecidableEq, Repr

namespace TcpPacketBuf

/-- `header_size`. -/
def headerSize (segment : TcpPacketBuf) : Nat :=
  segment.ethernet2Hdr.computeSize + segment.ipv4Hdr.computeSize + segment.tcpHdr.computeSize

/-- `take_body`, and the payload that `write_header` takes the checksum of. -/
def body (segment : TcpPacketBuf) : Buffer := segment.data.getD []

/-- `body_size`. -/
def bodySize (segment : TcpPacketBuf) : Nat :=
  match segment.data with
  | some buf => buf.length
  | none => 0

/-- A slice of a buffer, by its first byte and its size. -/
def slice (buf : Buffer) (start size : Nat) : Checked Buffer :=
  if start + size ≤ buf.length then .ok ((buf.drop start).take size) else .error .sliceOutOfRange

/-- `write_header` into a buffer, whatever it held before. -/
def writeHeader (profile : Profile) (segment : TcpPacketBuf) (buf : Buffer) : Checked Buffer := do
  let ethHdrSize := segment.ethernet2Hdr.computeSize
  let ipv4HdrSize := segment.ipv4Hdr.computeSize
  let tcpHdrSize := segment.tcpHdr.computeSize
  let ethernetBuf ← slice buf 0 ethHdrSize
  let ethernet ← segment.ethernet2Hdr.serialize ethernetBuf
  let ipv4PayloadLen := tcpHdrSize + segment.bodySize
  let ipv4Buf ← slice buf ethHdrSize ipv4HdrSize
  let ipv4 ← segment.ipv4Hdr.serialize profile ipv4Buf ipv4PayloadLen
  let tcpBuf ← slice buf (ethHdrSize + ipv4HdrSize) tcpHdrSize
  let tcp ← segment.tcpHdr.serialize profile tcpBuf segment.ipv4Hdr.toIpv4Header segment.body
    segment.txChecksumOffload
  .ok (ethernet ++ ipv4 ++ tcp ++ buf.drop segment.headerSize)

/-- The frame that the segment is written to is parsed again: to the same link header, to a
datagram between the same addresses and to the same TCP header and payload. The receiver has the
same checksum setting. -/
def DecodesAgain (profile : Profile) (segment : TcpPacketBuf) : Prop :=
  ∀ buf : Buffer, buf.length = segment.headerSize →
    ∃ written datagram ipv4Hdr payload,
      segment.writeHeader profile buf = .ok written ∧
      Ethernet2Header.parse (written ++ segment.body) =
        .ok (.ok (segment.ethernet2Hdr, datagram)) ∧
      Ipv4DatagramHeader.parse profile datagram = .ok (.ok (ipv4Hdr, payload)) ∧
      ipv4Hdr.toIpv4Header = segment.ipv4Hdr.toIpv4Header ∧
      TcpHeader.parse profile ipv4Hdr.toIpv4Header payload segment.txChecksumOffload =
        .ok (.ok (segment.tcpHdr, segment.body))

/-- The addresses and ports that a packet is given. -/
structure Readdressing where
  ethernet2Hdr : Ethernet2Header
  network : Ipv4Header
  srcPort : UInt16
  dstPort : UInt16

/-- The segment that is transmitted for parsed headers and their payload. -/
def readdressed (edit : Readdressing) (ipv4Hdr : Ipv4DatagramHeader) (tcpHdr : TcpHeader)
    (data : Buffer) (checksumOffload : Bool) : TcpPacketBuf where
  ethernet2Hdr := edit.ethernet2Hdr
  ipv4Hdr := { ipv4Hdr with toIpv4Header := edit.network }
  tcpHdr := { tcpHdr with srcPort := edit.srcPort, dstPort := edit.dstPort }
  data := some data
  txChecksumOffload := checksumOffload

end TcpPacketBuf

/-! ## The option area as it is written -/

namespace TcpHeader

variable {header : TcpHeader}

/-- The options and the zeros behind them. -/
def areaBytes (header : TcpHeader) : Buffer :=
  header.options.flatMap TcpOptions2.wire ++ List.replicate
    (header.computeSize - MIN_TCP_HEADER_SIZE - (header.options.flatMap TcpOptions2.wire).length) 0

/-- Well-formed options are written as their bytes. -/
theorem options_write {options : List TcpOptions2} (formed : ∀ option ∈ options, option.WellFormed) :
    (Wire.Writer.sequence (options.map TcpOptions2.serialize)).Writes
      (options.flatMap TcpOptions2.wire) := by
  induction options with
  | nil => exact .nil
  | cons option options inductionHypothesis =>
    exact (serialize_wire (formed option List.mem_cons_self)).cons
      (inductionHypothesis fun other member => formed other (List.mem_cons_of_mem _ member))

/-- The options, and the end of them if there are any. -/
def optionBytes (header : TcpHeader) : Buffer :=
  header.options.flatMap TcpOptions2.wire ++ if header.options ≠ [] then [0] else []

/-- With the padding they fill the area of the options. -/
theorem serializeOptions_writes (formed : ∀ option ∈ header.options, option.WellFormed) :
    header.serializeOptions.Writes header.optionBytes := by
  unfold serializeOptions optionBytes
  refine (options_write formed).append ?_
  split
  · exact (Wire.Writer.put_writes Fault.sliceOutOfRange [(0 : UInt8)]).cons .nil
  · exact .nil

/-- The padded options have the size that the header reserves for them. -/
theorem optionBytes_length (header : TcpHeader) : header.optionBytes.length = header.optionsSize := by
  rw [optionBytes, List.length_append, wires_length, optionsSize]
  split <;> rfl

/-- The end of the options is a zero like the padding. -/
theorem areaBytes_eq (header : TcpHeader) : header.areaBytes = header.optionBytes ++
    List.replicate (header.computeSize - MIN_TCP_HEADER_SIZE - header.optionBytes.length) 0 := by
  obtain ⟨inside, -, -⟩ := header.computeSize_bounds
  have size := header.optionBytes_length
  unfold optionBytes at size
  unfold areaBytes optionBytes
  rw [List.append_assoc]
  congr 1
  split
  · rename_i some
    rw [if_pos some, List.length_append, List.length_singleton] at size
    rw [List.length_append, List.length_singleton, List.singleton_append, ← List.replicate_succ]
    congr 1
    omega
  · rw [List.append_nil, List.nil_append]

/-- The area of the options is what the header has beyond its least size. -/
theorem areaBytes_length (header : TcpHeader) :
    header.areaBytes.length = header.computeSize - MIN_TCP_HEADER_SIZE := by
  obtain ⟨inside, -, -⟩ := header.computeSize_bounds
  have size := header.optionBytes_length
  rw [areaBytes_eq, List.length_append, List.length_replicate]
  omega

/-- Behind the fixed header stands the option area. -/
theorem serialize_area {profile : Profile} {ipv4Hdr : Ipv4Header} {buf data written : Buffer}
    {txChecksumOffload : Bool} (formed : ∀ option ∈ header.options, option.WellFormed)
    (room : buf.length = header.computeSize)
    (wrote : header.serialize profile buf ipv4Hdr data txChecksumOffload = .ok written) :
    written.length = header.computeSize ∧ written.drop MIN_TCP_HEADER_SIZE = header.areaBytes := by
  obtain ⟨inside, -, -⟩ := header.computeSize_bounds
  have size := header.optionBytes_length
  have space : (buf.drop MIN_TCP_HEADER_SIZE).length = header.computeSize - MIN_TCP_HEADER_SIZE := by
    rw [List.length_drop, room]
  have remainder : ((buf.drop MIN_TCP_HEADER_SIZE).drop header.optionBytes.length).length =
      header.computeSize - MIN_TCP_HEADER_SIZE - header.optionBytes.length := by
    rw [List.length_drop, space]
  rw [serialize, if_neg (by omega), serializeOptions_writes formed _ (by omega)] at wrote
  obtain ⟨_, same, wrote⟩ := bind_ok.mp wrote
  cases same
  obtain ⟨checksum, -, wrote⟩ := bind_ok.mp wrote
  have place : (header.frontBytes ++ bigEndian 2 checksum.toNat ++
      bigEndian 2 header.urgentPointer.toNat).length = MIN_TCP_HEADER_SIZE := by
    simp [frontBytes_length, MIN_TCP_HEADER_SIZE]
  have bytes : written = (header.frontBytes ++ bigEndian 2 checksum.toNat ++
      bigEndian 2 header.urgentPointer.toNat) ++ header.areaBytes := by
    rw [areaBytes_eq, ← remainder, ← Except.ok.inj wrote]
    simp only [List.append_assoc]
  refine ⟨?_, ?_⟩
  · rw [bytes, List.length_append, place, areaBytes_length]
    omega
  · rw [bytes, List.drop_left' place]

/-! ## A segment without its first bytes -/

/-- Bytes that a few zeros behind them shift by as many places begin with a zero. -/
theorem shifted_zero {byte : UInt8} {bytes : Buffer} {count : Nat}
    (shifted : (byte :: bytes ++ List.replicate (count + 1) 0).drop (count + 1) = byte :: bytes) :
    byte = 0 := by
  have split := List.take_append_drop (count + 1) (byte :: bytes ++ List.replicate (count + 1) 0)
  rw [shifted, List.cons_append, List.take_succ_cons] at split
  have sums := congrArg (fun whole : Buffer => (whole.map UInt8.toNat).sum) split
  simp only [List.map_append, List.map_cons, List.sum_append, List.sum_cons, List.cons_append,
    List.map_replicate, List.sum_replicate_nat, UInt8.toNat_zero, Nat.mul_zero] at sums
  refine UInt8.toNat_inj.mp ?_
  rw [UInt8.toNat_zero]
  omega

/-- The kind of an option is not the one that ends them. -/
theorem wire_kind (option : TcpOptions2) : ∃ kind rest, option.wire = kind :: rest ∧ kind ≠ 0 := by
  cases option <;> exact ⟨_, _, rfl, by decide⟩

/-- Without its first words, a written segment is not parsed to the same header and payload.
The options would have to be followed by no more than the words that are missing, and then
the kind of the first would be zero. -/
theorem shifted_refused {profile : Profile} {ipv4Hdr : Ipv4Header} {written data : Buffer}
    {rxChecksumOffload : Bool} (size : written.length = header.computeSize)
    (area : written.drop MIN_TCP_HEADER_SIZE = header.areaBytes) {words : Nat} (some : 0 < words) :
    parse profile ipv4Hdr ((written ++ data).drop (words * 4)) rxChecksumOffload ≠
      .ok (.ok (header, data)) := by
  intro parsed
  obtain ⟨grammatical, -, same⟩ := parse_offloaded_iff.mp (parse_unverified parsed)
  have aboveHeader := grammatical.aboveHeader
  have inside := grammatical.inside
  have optionArea := grammatical.area
  obtain ⟨-, small, aligned⟩ := header.computeSize_bounds
  have few := header.optionsSize_le
  have lengths := congrArg List.length same
  -- The data offset is the size of the written header less what is missing.
  rw [List.length_drop, List.length_drop, List.length_append, size] at lengths
  rw [List.length_drop, List.length_append, size] at inside
  unfold TcpHeader.optionArea at optionArea
  generalize dataOffset ((written ++ data).drop (words * 4)) = offset at *
  unfold MIN_TCP_HEADER_SIZE at aboveHeader
  have offsetSize : offset = header.computeSize - words * 4 := by omega
  have behind : (((written ++ data).drop (words * 4)).take offset).drop MIN_TCP_HEADER_SIZE =
      header.areaBytes.drop (words * 4) := by
    rw [List.drop_append_of_le_length (by omega), List.take_left' (by
      rw [List.length_drop, size, offsetSize]), List.drop_drop, Nat.add_comm, ← List.drop_drop, area]
  rw [behind] at optionArea
  obtain ⟨room, exactly⟩ := area_size optionArea
  rw [List.length_drop, areaBytes_length] at room exactly
  unfold MIN_TCP_HEADER_SIZE at room exactly small
  have one : words = 1 := by omega
  subst one
  have shifted := exactly (by omega)
  cases options : header.options with
  | nil =>
    have plain := computeSize_plain options
    rw [optionsSize, options, if_neg (not_not.mpr rfl), List.map_nil, List.sum_nil,
      MIN_TCP_HEADER_SIZE] at plain
    omega
  | cons option others =>
    obtain ⟨kind, rest, wire, other⟩ := wire_kind option
    have four : header.computeSize - MIN_TCP_HEADER_SIZE -
        (header.options.flatMap TcpOptions2.wire).length = 3 + 1 := by
      rw [wires_length, MIN_TCP_HEADER_SIZE]
      omega
    rw [areaBytes, four, options, List.flatMap_cons, wire, List.cons_append] at shifted
    exact other (shifted_zero shifted)

end TcpHeader

/-! ## What is written in front of the payload -/

namespace TcpPacketBuf

variable {profile : Profile} {segment : TcpPacketBuf}

/-- A slice that lies inside a buffer is cut out. -/
theorem slice_of_le {buf : Buffer} {start size : Nat} (inside : start + size ≤ buf.length) :
    slice buf start size = .ok ((buf.drop start).take size) := if_pos inside

/-- The size of a body is the number of its bytes, also if there is none. -/
theorem bodySize_eq (segment : TcpPacketBuf) : segment.bodySize = segment.body.length := by
  unfold bodySize body
  cases segment.data <;> rfl

/-- The space for the headers is that of all three. -/
theorem headerSize_eq (segment : TcpPacketBuf) : segment.headerSize =
    ETHERNET2_HEADER_SIZE + IPV4_HEADER_MIN_SIZE + segment.tcpHdr.computeSize := rfl

/-- The space of the TCP header in a buffer for all headers. -/
def tcpSpace (buf : Buffer) : Buffer := buf.drop (ETHERNET2_HEADER_SIZE + IPV4_HEADER_MIN_SIZE)

/-- The three headers one after the other. -/
theorem writeHeader_eq {buf : Buffer} (room : buf.length = segment.headerSize) :
    ∃ ipv4Buf : Buffer, ipv4Buf.length = IPV4_HEADER_MIN_SIZE ∧
      segment.writeHeader profile buf = (do
        let ipv4 ← segment.ipv4Hdr.serialize profile ipv4Buf
          (segment.tcpHdr.computeSize + segment.body.length)
        let tcp ← segment.tcpHdr.serialize profile (tcpSpace buf) segment.ipv4Hdr.toIpv4Header
          segment.body segment.txChecksumOffload
        .ok (segment.ethernet2Hdr.bytes ++ ipv4 ++ tcp)) := by
  rw [headerSize_eq] at room
  refine ⟨(buf.drop ETHERNET2_HEADER_SIZE).take IPV4_HEADER_MIN_SIZE, ?_, ?_⟩
  · rw [List.length_take, List.length_drop]
    omega
  have ethernetSize : ((buf.drop 0).take ETHERNET2_HEADER_SIZE).length = ETHERNET2_HEADER_SIZE := by
    rw [List.length_take, List.drop_zero]
    omega
  have rest : (buf.drop (ETHERNET2_HEADER_SIZE + IPV4_HEADER_MIN_SIZE)).take
      segment.tcpHdr.computeSize = tcpSpace buf :=
    List.take_of_length_le (by
      rw [List.length_drop]
      omega)
  have nothing : buf.drop segment.headerSize = [] :=
    List.drop_eq_nil_of_le (by rw [headerSize_eq]; omega)
  unfold writeHeader
  dsimp only [Ethernet2Header.computeSize, Ipv4DatagramHeader.computeSize]
  rw [slice_of_le (by omega), slice_of_le (by omega), slice_of_le (by omega), bodySize_eq, nothing]
  dsimp only [bind, Except.bind]
  rw [Ethernet2Header.serialize, if_neg (not_not.mpr ethernetSize), rest]
  simp only [List.append_nil]

/-- The length of the datagram that is written, without IPv4 options. -/
def datagramSize (segment : TcpPacketBuf) : Nat :=
  IPV4_HEADER_MIN_SIZE + (segment.tcpHdr.computeSize + segment.body.length)

/-- A segment that is not too long is written with its total length. -/
theorem writeHeader_fits {buf : Buffer} (room : buf.length = segment.headerSize)
    (fits : segment.datagramSize < 2 ^ 16) :
    segment.writeHeader profile buf = (do
      let tcp ← segment.tcpHdr.serialize profile (tcpSpace buf) segment.ipv4Hdr.toIpv4Header
        segment.body segment.txChecksumOffload
      .ok (segment.ethernet2Hdr.bytes ++
        segment.ipv4Hdr.signed (UInt16.ofNat segment.datagramSize) ++ tcp)) := by
  obtain ⟨ipv4Buf, size, written⟩ := @writeHeader_eq profile segment buf room
  rw [written, Ipv4DatagramHeader.serialize_eq size (Ipv4DatagramHeader.totalLength_eq profile fits)]
  rfl

/-! ## When a packet is decoded again -/

/-- What is left of it behind the first two is as long as the TCP header. -/
theorem tcpSpace_length {buf : Buffer} (room : buf.length = segment.headerSize) :
    (tcpSpace buf).length = segment.tcpHdr.computeSize := by
  rw [headerSize_eq] at room
  rw [tcpSpace, List.length_drop]
  omega

/-- What a datagram with the given total length has behind a header of so many words. -/
theorem payload_whole {header : Ipv4DatagramHeader} {totalLength : UInt16} {rest : Buffer}
    (whole : totalLength.toNat = IPV4_HEADER_MIN_SIZE + rest.length) {words : Nat}
    (minimal : IPV4_HEADER_MIN_SIZE ≤ words * 4) :
    ((header.signed totalLength ++ rest).take totalLength.toNat).drop (words * 4) =
      rest.drop ((words - 5) * 4) := by
  have size : (header.signed totalLength).length = IPV4_HEADER_MIN_SIZE :=
    Ipv4DatagramHeader.layout_length _ _ _
  unfold IPV4_HEADER_MIN_SIZE at minimal size whole
  rw [List.take_of_length_le (by rw [List.length_append]; omega), List.drop_append, size,
    List.drop_eq_nil_of_le (by omega), List.nil_append]
  congr 1
  omega

/-- A packet without IPv4 options whose TCP header can be parsed again and that is not too long is
decoded again. -/
theorem decodesAgain_of (formed : segment.ipv4Hdr.WellFormed) (parsed : segment.tcpHdr.Parsed)
    (words : segment.ipv4Hdr.ihl.toNat = 5)
    (small : segment.tcpHdr.computeSize ≤ MAX_TCP_HEADER_SIZE)
    (fits : segment.datagramSize < 2 ^ 16) : segment.DecodesAgain profile := by
  intro buf room
  have short : segment.tcpHdr.computeSize + segment.body.length < 2 ^ 16 :=
    Nat.lt_of_le_of_lt (Nat.le_add_left _ _) fits
  have space := tcpSpace_length room
  obtain ⟨tcp, serialized, transport⟩ := (parsed.parsedBack_iff profile
    segment.ipv4Hdr.toIpv4Header segment.txChecksumOffload short).mpr small _ space
  obtain ⟨size, -⟩ := TcpHeader.serialize_area (fun option member => (parsed.stored option member).1)
    space serialized
  have written : segment.writeHeader profile buf = .ok (segment.ethernet2Hdr.bytes ++
      segment.ipv4Hdr.signed (UInt16.ofNat segment.datagramSize) ++ tcp) := by
    rw [writeHeader_fits room fits, serialized]
    rfl
  have total := UInt16.toNat_ofNat_of_lt' fits
  have whole : (UInt16.ofNat segment.datagramSize).toNat =
      IPV4_HEADER_MIN_SIZE + (tcp ++ segment.body).length := by
    rw [total, List.length_append, size, datagramSize]
  have minimal : IPV4_HEADER_MIN_SIZE ≤ segment.ipv4Hdr.ihl.toNat * 4 := by
    rw [words]
    exact Nat.le_refl _
  have network := @Ipv4DatagramHeader.parse_layout _ profile formed
    (UInt16.ofNat segment.datagramSize) _ (tcp ++ segment.body) rfl minimal
    (by rw [words, whole]; exact Nat.le_add_right _ _) (Nat.le_of_eq whole)
  rw [← Ipv4DatagramHeader.signed, payload_whole whole minimal, words, Nat.sub_self, Nat.zero_mul,
    List.drop_zero] at network
  refine ⟨_, _, _, _, written, ?_, network, rfl, transport⟩
  rw [List.append_assoc, List.append_assoc, Ethernet2Header.parse_bytes]

/-- The total length that is written for a segment is right, unless it has wrapped around to less
than a header. -/
theorem totalLength_ok {payloadLen total : Nat} (small : payloadLen < 2 ^ 16)
    (counted : Ipv4Header.totalLength profile payloadLen = .ok total) :
    total < 2 ^ 16 ∧ (total = IPV4_HEADER_MIN_SIZE + payloadLen ∨ total < IPV4_HEADER_MIN_SIZE) := by
  rw [Ipv4Header.totalLength, Nat.mod_eq_of_lt small, addU16] at counted
  split at counted
  · rename_i fits
    cases counted
    exact ⟨fits, .inl rfl⟩
  · split at counted
    · cases counted
    · cases counted
      unfold IPV4_HEADER_MIN_SIZE
      omega

/-- How a packet that is decoded again was written and how its parts were parsed. -/
theorem DecodesAgain.parts (again : segment.DecodesAgain profile)
    (small : segment.tcpHdr.computeSize + segment.body.length < 2 ^ 16) {buf : Buffer}
    (room : buf.length = segment.headerSize) :
    ∃ (totalLength : UInt16) (tcp : Buffer) (ipv4Hdr : Ipv4DatagramHeader) (payload : Buffer),
      (totalLength.toNat = segment.datagramSize ∨ totalLength.toNat < IPV4_HEADER_MIN_SIZE) ∧
      segment.tcpHdr.serialize profile (tcpSpace buf) segment.ipv4Hdr.toIpv4Header segment.body
        segment.txChecksumOffload = .ok tcp ∧
      Ipv4DatagramHeader.parse profile (segment.ipv4Hdr.signed totalLength ++ (tcp ++ segment.body)) =
        .ok (.ok (ipv4Hdr, payload)) ∧
      TcpHeader.parse profile segment.ipv4Hdr.toIpv4Header payload segment.txChecksumOffload =
        .ok (.ok (segment.tcpHdr, segment.body)) := by
  obtain ⟨written, datagram, ipv4Hdr, payload, wrote, frame, network, same, transport⟩ := again buf room
  obtain ⟨ipv4Buf, size, parts⟩ := @writeHeader_eq profile segment buf room
  rw [parts] at wrote
  obtain ⟨ipv4, wroteIpv4, wrote⟩ := bind_ok.mp wrote
  obtain ⟨tcp, wroteTcp, wrote⟩ := bind_ok.mp wrote
  cases wrote
  rw [List.append_assoc, List.append_assoc, Ethernet2Header.parse_bytes] at frame
  cases frame
  obtain ⟨total, counted⟩ : ∃ total, Ipv4Header.totalLength profile
      (segment.tcpHdr.computeSize + segment.body.length) = .ok total := by
    rw [Ipv4DatagramHeader.serialize, if_neg (not_not.mpr size)] at wroteIpv4
    obtain ⟨total, counted, -⟩ := bind_ok.mp wroteIpv4
    exact ⟨total, counted⟩
  obtain ⟨fits, right⟩ := totalLength_ok small counted
  have number := UInt16.toNat_ofNat_of_lt' fits
  rw [Ipv4DatagramHeader.serialize_eq size (by rw [counted, number])] at wroteIpv4
  cases wroteIpv4
  rw [same] at transport
  refine ⟨UInt16.ofNat total, tcp, ipv4Hdr, payload, ?_, wroteTcp, network, transport⟩
  rw [number]
  exact right

/-- A packet that is decoded again has no IPv4 options, a TCP header that can be parsed again, and
is not too long. -/
theorem DecodesAgain.only (again : segment.DecodesAgain profile)
    (formed : segment.ipv4Hdr.WellFormed) (parsed : segment.tcpHdr.Parsed)
    (minimal : IPV4_HEADER_MIN_SIZE ≤ segment.ipv4Hdr.ihl.toNat * 4)
    (small : segment.tcpHdr.computeSize + segment.body.length < 2 ^ 16) :
    segment.ipv4Hdr.ihl.toNat = 5 ∧ segment.tcpHdr.computeSize ≤ MAX_TCP_HEADER_SIZE ∧
      segment.datagramSize < 2 ^ 16 := by
  have options : ∀ option ∈ segment.tcpHdr.options, option.WellFormed :=
    fun option member => (parsed.stored option member).1
  have parts {buf : Buffer} (room : buf.length = segment.headerSize) :
      segment.ipv4Hdr.ihl.toNat = 5 ∧ segment.datagramSize < 2 ^ 16 ∧
        ∃ tcp, segment.tcpHdr.serialize profile (tcpSpace buf) segment.ipv4Hdr.toIpv4Header
          segment.body segment.txChecksumOffload = .ok tcp ∧
          TcpHeader.parse profile segment.ipv4Hdr.toIpv4Header (tcp ++ segment.body)
            segment.txChecksumOffload = .ok (.ok (segment.tcpHdr, segment.body)) := by
    obtain ⟨totalLength, tcp, ipv4Hdr, payload, total, serialized, network, transport⟩ :=
      again.parts small room
    obtain ⟨longer, -, rfl⟩ := Ipv4DatagramHeader.of_parse_layout formed network
    obtain ⟨size, area⟩ := TcpHeader.serialize_area options (tcpSpace_length room) serialized
    have right : totalLength.toNat = segment.datagramSize := by omega
    have whole : totalLength.toNat = IPV4_HEADER_MIN_SIZE + (tcp ++ segment.body).length := by
      rw [right, List.length_append, size, datagramSize]
    rw [← Ipv4DatagramHeader.signed, payload_whole whole minimal] at transport
    unfold IPV4_HEADER_MIN_SIZE at minimal
    have words : segment.ipv4Hdr.ihl.toNat = 5 := by
      by_contra other
      exact TcpHeader.shifted_refused size area (by omega) transport
    refine ⟨words, ?_, tcp, serialized, ?_⟩
    · rw [← right]
      exact totalLength.toNat_lt
    · rwa [words, Nat.sub_self, Nat.zero_mul, List.drop_zero] at transport
  obtain ⟨words, fits, -⟩ := @parts (List.replicate segment.headerSize 0) List.length_replicate
  refine ⟨words, ?_, fits⟩
  refine (parsed.parsedBack_iff profile segment.ipv4Hdr.toIpv4Header segment.txChecksumOffload
    small).mp fun space size => ?_
  have room : (List.replicate (ETHERNET2_HEADER_SIZE + IPV4_HEADER_MIN_SIZE) (0 : UInt8) ++
      space).length = segment.headerSize := by
    rw [List.length_append, List.length_replicate, size, headerSize_eq]
  obtain ⟨-, -, tcp, serialized, transport⟩ := parts room
  rw [tcpSpace, List.drop_left' List.length_replicate] at serialized
  exact ⟨tcp, serialized, transport⟩

/-! ## Packets that the switch forwards -/

variable {ipv4Hdr : Ipv4DatagramHeader} {tcpHdr : TcpHeader} {datagram payload data : Buffer}
  {checksumOffload : Bool}

/-- What is known of parsed headers, whatever addresses they are given. -/
theorem readdressed_formed
    (network : Ipv4DatagramHeader.parse profile datagram = .ok (.ok (ipv4Hdr, payload)))
    (transport : TcpHeader.parse profile ipv4Hdr.toIpv4Header payload checksumOffload =
      .ok (.ok (tcpHdr, data))) (edit : Readdressing) :
    let segment := readdressed edit ipv4Hdr tcpHdr data checksumOffload
    segment.ipv4Hdr.WellFormed ∧ segment.tcpHdr.Parsed ∧
      IPV4_HEADER_MIN_SIZE ≤ segment.ipv4Hdr.ihl.toNat * 4 ∧
      segment.tcpHdr.computeSize + segment.body.length < 2 ^ 16 := by
  obtain ⟨formed, minimal, fits⟩ := Ipv4DatagramHeader.parse_wellFormed network
  obtain ⟨parsed, size⟩ := TcpHeader.parse_parsed transport
  refine ⟨{ formed with }, parsed, minimal, ?_⟩
  change tcpHdr.computeSize + data.length < 2 ^ 16
  unfold IPV4_HEADER_MIN_SIZE at minimal
  omega

/-- A header whose options do not fill all forty bytes is small enough to be parsed again. -/
theorem computeSize_small (header : TcpHeader) : header.computeSize ≤ MAX_TCP_HEADER_SIZE ↔
    (header.options.map TcpOptions2.computeSize).sum < MAX_TCP_HEADER_SIZE - MIN_TCP_HEADER_SIZE := by
  obtain ⟨inside, small, aligned⟩ := header.computeSize_bounds
  unfold TcpHeader.optionsSize at inside small
  unfold MAX_TCP_HEADER_SIZE MIN_TCP_HEADER_SIZE at *
  by_cases empty : header.options = []
  · rw [if_neg (not_not.mpr empty)] at inside small
    rw [empty, List.map_nil, List.sum_nil] at inside small ⊢
    omega
  · rw [if_pos empty] at inside small
    omega

/-- A packet that has been parsed is decoded again after it has been given other addresses and
ports exactly if its IPv4 header has no options, its TCP options do not fill all forty bytes, and
the headers that are written fit a datagram together with the payload.

Proof: the packet that is written is decoded by the same parsers. The three conditions
are those under which they accept it: the length of the IPv4 header is written once, the
data offset is a nibble, and the total length is a word. -/
theorem readdressed_decodesAgain_iff
    (network : Ipv4DatagramHeader.parse profile datagram = .ok (.ok (ipv4Hdr, payload)))
    (transport : TcpHeader.parse profile ipv4Hdr.toIpv4Header payload checksumOffload =
      .ok (.ok (tcpHdr, data))) (edit : Readdressing) :
    (readdressed edit ipv4Hdr tcpHdr data checksumOffload).DecodesAgain profile ↔
      ipv4Hdr.ihl = IPV4_IHL_NO_OPTIONS ∧
      (tcpHdr.options.map TcpOptions2.computeSize).sum <
        MAX_TCP_HEADER_SIZE - MIN_TCP_HEADER_SIZE ∧
      IPV4_HEADER_MIN_SIZE + (tcpHdr.computeSize + data.length) < 2 ^ 16 := by
  obtain ⟨formed, parsed, minimal, small⟩ := readdressed_formed network transport edit
  rw [← computeSize_small]
  constructor
  · intro again
    obtain ⟨words, size, fits⟩ := again.only formed parsed minimal small
    exact ⟨UInt8.toNat_inj.mp words, size, fits⟩
  · rintro ⟨plain, size, fits⟩
    have words : ipv4Hdr.ihl.toNat = 5 := by
      rw [plain]
      rfl
    exact decodesAgain_of formed parsed words size fits

/-- A SYN from 10.0.0.8:5000 to 10.0.0.1:10000 with two bytes of data. -/
def plainDatagram : Buffer :=
  [0x45, 0, 0, 42, 0, 0, 0x40, 0, 64, 6, 38, 198, 10, 0, 0, 8, 10, 0, 0, 1] ++
    [19, 136, 39, 16, 0, 0, 0, 1, 0, 0, 0, 0, 80, 2, 255, 255, 0, 0, 0, 0] ++ [1, 2]

/-- It is decoded again with the address 10.0.0.9 and the port 10001 of a backend. -/
theorem readdressed_decodesAgain_plain :
    (readdressed ⟨⟨1, 2, .ipv4⟩, ⟨0x0a000008, 0x0a000009⟩, 5000, 10001⟩
      (.ofBytes plainDatagram .tcp) (.ofBytes (plainDatagram.drop 20) []) [1, 2]
      true).DecodesAgain .dev := by
  have network : Ipv4DatagramHeader.parse .dev plainDatagram =
      .ok (.ok (.ofBytes plainDatagram .tcp, plainDatagram.drop 20)) := rfl
  have transport : TcpHeader.parse .dev (Ipv4DatagramHeader.ofBytes plainDatagram .tcp).toIpv4Header
      (plainDatagram.drop 20) true = .ok (.ok (.ofBytes (plainDatagram.drop 20) [], [1, 2])) := rfl
  exact (readdressed_decodesAgain_iff network transport _).mpr ⟨rfl, by decide, by decide⟩

/-- The SYN without data behind an IPv4 header with a word of options. -/
def networkOptions : Buffer :=
  [0x46, 0, 0, 44, 0, 0, 0x40, 0, 64, 6, 37, 196, 10, 0, 0, 8, 10, 0, 0, 1] ++ [0, 0, 0, 0] ++
    [19, 136, 39, 16, 0, 0, 0, 1, 0, 0, 0, 0, 80, 2, 255, 255, 0, 0, 0, 0]

/-- The SYN with forty bytes of options: two window scales and four blocks. -/
def fullOptions : Buffer :=
  [0x45, 0, 0, 80, 0, 0, 0x40, 0, 64, 6, 38, 160, 10, 0, 0, 8, 10, 0, 0, 1] ++
    [19, 136, 39, 16, 0, 0, 0, 1, 0, 0, 0, 0, 240, 2, 255, 255, 0, 0, 0, 0] ++
    [3, 3, 7, 3, 3, 7, 5, 34] ++ List.replicate 32 0

/-- A datagram that is accepted but is not decoded again, whatever addresses it is given. -/
def Lost (profile : Profile) (checksumOffload : Bool) (datagram : Buffer) : Prop :=
  ∃ ipv4Hdr payload tcpHdr data,
    Ipv4DatagramHeader.parse profile datagram = .ok (.ok (ipv4Hdr, payload)) ∧
    TcpHeader.parse profile ipv4Hdr.toIpv4Header payload checksumOffload =
      .ok (.ok (tcpHdr, data)) ∧
    ∀ edit, ¬ (readdressed edit ipv4Hdr tcpHdr data checksumOffload).DecodesAgain profile

/-- Both of them are lost. -/
theorem not_decodesAgain : Lost .dev true networkOptions ∧ Lost .dev true fullOptions := by
  constructor
  · have network : Ipv4DatagramHeader.parse .dev networkOptions =
        .ok (.ok (.ofBytes networkOptions .tcp, networkOptions.drop 24)) := rfl
    have transport : TcpHeader.parse .dev (Ipv4DatagramHeader.ofBytes networkOptions .tcp).toIpv4Header
        (networkOptions.drop 24) true = .ok (.ok (.ofBytes (networkOptions.drop 24) [], [])) := rfl
    refine ⟨_, _, _, _, network, transport, fun edit again => ?_⟩
    obtain ⟨formed, parsed, minimal, small⟩ := readdressed_formed network transport edit
    obtain ⟨words, -, -⟩ := again.only formed parsed minimal small
    change (Ipv4DatagramHeader.ofBytes networkOptions .tcp).ihl.toNat = 5 at words
    exact absurd words (by decide)
  · have network : Ipv4DatagramHeader.parse .dev fullOptions =
        .ok (.ok (.ofBytes fullOptions .tcp, fullOptions.drop 20)) := rfl
    have transport : TcpHeader.parse .dev (Ipv4DatagramHeader.ofBytes fullOptions .tcp).toIpv4Header
        (fullOptions.drop 20) true = .ok (.ok (.ofBytes (fullOptions.drop 20)
          [.windowScale 7, .windowScale 7, .selectiveAcknowlegement (List.replicate 4 ⟨⟨0⟩, ⟨0⟩⟩)],
          [])) := rfl
    refine ⟨_, _, _, _, network, transport, fun edit again => ?_⟩
    obtain ⟨formed, parsed, minimal, small⟩ := readdressed_formed network transport edit
    obtain ⟨-, size, -⟩ := again.only formed parsed minimal small
    rw [computeSize_small] at size
    change 3 + (3 + (34 + 0)) < 40 at size
    exact absurd size (by decide)

end TcpPacketBuf

end Capybara
