import Capybara.InetStack.Frames

/-!
# What is transmitted is delivered

A packet of any protocol is written, filled up, sent as a frame and parsed layer by layer on
the other side, which verifies the checksums that it does not leave to its hardware. What then
reaches the peer of the protocol is what was handed to the runtime, for every content of the
buffer that the headers are written into and every padding.

One kind of packet goes astray: the data of a UDP datagram can begin like a migration message
or a load signal, and these are recognised before the ports are looked at.

No frame, whatever its bytes are, makes the parsing panic.
-/

namespace Capybara

open Wire TcpMigHeader TcpPacketBuf InternetChecksum

/-! ## What is to be delivered -/

namespace Packet

/-- What reaches a peer for a packet. Options that stand for nothing are not kept. -/
def delivery : Packet → Delivery
  | .arp message => .arp message.header
  | .icmpv4 message => .icmpv4 message.ipv4Hdr message.icmpv4Hdr
  | .tcp segment => .tcp ⟨segment.srcAddr, segment.dstAddr⟩
      { segment.tcpHdr with options := segment.tcpHdr.options.filter (· ≠ .noOperation) }
      (segment.data.getD [])
  | .tcpmig segment => .tcpmig segment.ipv4Hdr segment.tcpmigHdr segment.data
  | .udp datagram => .udp datagram.ipv4Hdr datagram.udpHdr datagram.data

/-- A packet that fits an IPv4 datagram, whose TCP header can be written, and whose TCP checksum
is left to the hardware only if the receiver does the same. -/
def WellFormed (offload : RxOffload) : Packet → Prop
  | .arp _ => True
  | .icmpv4 _ => True
  | .tcp segment => segment.tcpHdr.options.length ≤ MAX_TCP_OPTIONS ∧
      (∀ option ∈ segment.tcpHdr.options, option.WellFormed) ∧
      segment.tcpHdr.computeSize ≤ MAX_TCP_HEADER_SIZE ∧
      segment.tcpHdr.computeSize + (segment.data.getD []).length ≤ 65515 ∧
      (segment.txChecksumOffload = true → offload.tcp = true)
  | .tcpmig segment => TCPMIG_HEADER_SIZE + segment.data.length ≤ 65515
  | .udp datagram => UDP_HEADER_SIZE + datagram.data.length ≤ 65515

/-- A UDP datagram whose data begins like a migration message or a load signal. -/
def Imitates : Packet → Prop
  | .udp datagram =>
      TCPMIG_HEADER_SIZE - UDP_HEADER_SIZE ≤ datagram.data.length ∧
        readU32At datagram.data 0 = MAGIC_NUMBER ∨
      RPS_SIGNAL_HEADER_SIZE - UDP_HEADER_SIZE ≤ datagram.data.length ∧
        readU32At datagram.data 0 = RPS_SIGNAL_SIGNATURE
  | _ => False

end Packet

/-! ## Transmitting -/

/-- Padding puts zeros behind a frame. -/
theorem padFrame_eq {room : Nat} (minimal : MIN_PAYLOAD_SIZE ≤ room) (frame : Buffer) :
    ∃ count, padFrame room frame = .ok (frame ++ List.replicate count 0) := by
  unfold padFrame
  split
  · rw [if_neg (Nat.not_lt_of_le minimal)]
    exact ⟨_, rfl⟩
  · exact ⟨0, by rw [List.replicate_zero, List.append_nil]⟩

/-- What is transmitted once the headers are written. -/
theorem transmit_eq {profile : Profile} {buffers : TransmitBuffers} {packet : Packet}
    {header : Buffer} (room : packet.headerSize ≤ buffers.header.length)
    (minimal : MIN_PAYLOAD_SIZE ≤ buffers.header.length)
    (bodies : buffers.managed = true ∨ (packet.takeBody.getD []).length ≤ buffers.bodySize)
    (written : packet.writeHeader profile (buffers.header.take packet.headerSize) = .ok header) :
    ∃ count, transmit profile buffers packet =
      .ok (header ++ packet.takeBody.getD [] ++ List.replicate count 0) := by
  unfold transmit
  dsimp only
  rw [if_neg (Nat.not_lt_of_le room), written]
  dsimp only [bind, Except.bind, pure, Except.pure]
  cases taken : packet.takeBody with
  | none =>
    rw [Option.getD_none, List.append_nil]
    exact padFrame_eq minimal header
  | some body =>
    rw [taken, Option.getD_some] at bodies
    rw [Option.getD_some]
    dsimp only
    split
    · rename_i chained
      have unmanaged : ¬ (buffers.managed = false ∧ buffers.bodySize < body.length) := by
        rintro ⟨unmanaged, short⟩
        obtain managed | fits := bodies
        · cases managed.symm.trans unmanaged
        · omega
      rw [if_neg (by omega), if_neg unmanaged]
      exact ⟨0, by rw [List.replicate_zero, List.append_nil]⟩
    · exact padFrame_eq minimal (header ++ body)

/-! ## The layers below the transport -/

/-- The three headers one after the other. -/
theorem writeOverIpv4_eq {profile : Profile} {ethernet2Hdr : Ethernet2Header}
    {ipv4Hdr : Ipv4DatagramHeader} {hdrSize bodySize : Nat}
    {serialize : Buffer → Checked Buffer} {buf transport : Buffer}
    (room : buf.length = ETHERNET2_HEADER_SIZE + IPV4_HEADER_MIN_SIZE + hdrSize)
    (fits : IPV4_HEADER_MIN_SIZE + (hdrSize + bodySize) < 2 ^ 16)
    (serialized : serialize (tcpSpace buf) = .ok transport) :
    writeOverIpv4 profile ethernet2Hdr ipv4Hdr hdrSize bodySize serialize buf =
      .ok (ethernet2Hdr.bytes ++
        ipv4Hdr.signed (UInt16.ofNat (IPV4_HEADER_MIN_SIZE + (hdrSize + bodySize))) ++ transport) := by
  have ethernetSize : ((buf.drop 0).take ETHERNET2_HEADER_SIZE).length = ETHERNET2_HEADER_SIZE := by
    rw [List.length_take, List.drop_zero]
    omega
  have ipv4Size : ((buf.drop ETHERNET2_HEADER_SIZE).take IPV4_HEADER_MIN_SIZE).length =
      IPV4_HEADER_MIN_SIZE := by
    rw [List.length_take, List.length_drop]
    omega
  have rest : (buf.drop (ETHERNET2_HEADER_SIZE + IPV4_HEADER_MIN_SIZE)).take hdrSize =
      tcpSpace buf :=
    List.take_of_length_le (by
      rw [List.length_drop]
      omega)
  have nothing : buf.drop (ETHERNET2_HEADER_SIZE + IPV4_HEADER_MIN_SIZE + hdrSize) = [] :=
    List.drop_eq_nil_of_le (Nat.le_of_eq room)
  unfold writeOverIpv4
  dsimp only [Ethernet2Header.computeSize, Ipv4DatagramHeader.computeSize]
  rw [slice_of_le (by omega), slice_of_le (by omega), slice_of_le (by omega), nothing]
  dsimp only [bind, Except.bind]
  rw [Ethernet2Header.serialize, if_neg (not_not.mpr ethernetSize),
    Ipv4DatagramHeader.serialize_eq ipv4Size (Ipv4DatagramHeader.totalLength_eq profile fits)]
  dsimp only
  rw [rest, serialized]
  dsimp only
  rw [List.append_nil]

/-- What a receiver has once it has parsed the link and the network header. -/
theorem parse_network (profile : Profile) (ipv4Hdr : Ipv4Header) (protocol : IpProtocol)
    {datagram padding : Buffer} (fits : IPV4_HEADER_MIN_SIZE + datagram.length < 2 ^ 16) :
    ∃ header : Ipv4DatagramHeader, header.toIpv4Header = ipv4Hdr ∧ header.protocol = protocol ∧
      Ipv4DatagramHeader.parse profile ((ipv4Hdr.datagramHeader protocol).signed
        (UInt16.ofNat (IPV4_HEADER_MIN_SIZE + datagram.length)) ++ datagram ++ padding) =
          .ok (.ok (header, datagram)) := by
  have number := UInt16.toNat_ofNat_of_lt' fits
  have size := Ipv4DatagramHeader.layout_length (ipv4Hdr.datagramHeader protocol)
    (UInt16.ofNat (IPV4_HEADER_MIN_SIZE + datagram.length))
  have parsed := @Ipv4DatagramHeader.parse_layout _ profile
    (Ipv4DatagramHeader.new_wellFormed ipv4Hdr.srcAddr ipv4Hdr.destAddr protocol)
    (UInt16.ofNat (IPV4_HEADER_MIN_SIZE + datagram.length)) _ (datagram ++ padding) rfl
    (Nat.le_refl _) (by rw [number]; exact Nat.le_add_right _ _)
    (by rw [number, List.length_append]; omega)
  have ihl : (ipv4Hdr.datagramHeader protocol).ihl.toNat * 4 = IPV4_HEADER_MIN_SIZE := rfl
  rw [number, ← List.append_assoc] at parsed
  change Ipv4DatagramHeader.parse profile (((ipv4Hdr.datagramHeader protocol).layout _ _) ++ _ ++ _) =
    .ok (.ok (_, List.drop ((ipv4Hdr.datagramHeader protocol).ihl.toNat * 4) (List.take _
      ((ipv4Hdr.datagramHeader protocol).layout _ _ ++ _ ++ _)))) at parsed
  rw [List.take_left' (by rw [List.length_append, size]), ihl, List.drop_left' (size _)] at parsed
  exact ⟨_, rfl, rfl, parsed⟩

/-- A packet over IPv4 is delivered as what its transport and its body are dispatched to. -/
theorem delivered_over_ipv4 {profile : Profile} (offload : RxOffload) {buffers : TransmitBuffers}
    {packet : Packet} {dstAddr srcAddr : MacAddress} {ipv4Hdr : Ipv4Header} {protocol : IpProtocol}
    {hdrSize : Nat} {serialize : Buffer → Checked Buffer} {transport : Buffer}
    (room : packet.headerSize ≤ buffers.header.length)
    (minimal : MIN_PAYLOAD_SIZE ≤ buffers.header.length)
    (bodies : buffers.managed = true ∨ (packet.takeBody.getD []).length ≤ buffers.bodySize)
    (size : packet.headerSize = ETHERNET2_HEADER_SIZE + IPV4_HEADER_MIN_SIZE + hdrSize)
    (writes : packet.writeHeader profile = writeOverIpv4 profile (.forIpv4 dstAddr srcAddr)
      (ipv4Hdr.datagramHeader protocol) hdrSize (packet.takeBody.getD []).length serialize)
    (serialized : serialize (tcpSpace (buffers.header.take packet.headerSize)) = .ok transport)
    (filled : transport.length = hdrSize)
    (fits : hdrSize + (packet.takeBody.getD []).length ≤ 65515) :
    ∃ frame, transmit profile buffers packet = .ok frame ∧ doReceive profile offload frame =
      dispatch profile offload ipv4Hdr protocol (transport ++ packet.takeBody.getD []) := by
  have space : (buffers.header.take packet.headerSize).length =
      ETHERNET2_HEADER_SIZE + IPV4_HEADER_MIN_SIZE + hdrSize := by
    rw [List.length_take_of_le room, size]
  have whole : hdrSize + (packet.takeBody.getD []).length =
      (transport ++ packet.takeBody.getD []).length := by
    rw [List.length_append, filled]
  have short : IPV4_HEADER_MIN_SIZE + (hdrSize + (packet.takeBody.getD []).length) < 2 ^ 16 := by
    unfold IPV4_HEADER_MIN_SIZE
    omega
  have written := @writeOverIpv4_eq profile (.forIpv4 dstAddr srcAddr)
    (ipv4Hdr.datagramHeader protocol) hdrSize _ serialize _ transport space short serialized
  rw [← writes, whole] at written
  rw [whole] at short
  obtain ⟨count, transmitted⟩ := transmit_eq room minimal bodies written
  refine ⟨_, transmitted, ?_⟩
  obtain ⟨header, addresses, known, parsed⟩ :=
    @parse_network profile ipv4Hdr protocol _ (List.replicate count 0) short
  unfold doReceive
  rw [List.append_assoc, List.append_assoc, List.append_assoc, Ethernet2Header.parse_bytes]
  dsimp only [bind, Except.bind, Ethernet2Header.forIpv4]
  unfold receiveIpv4
  rw [← List.append_assoc, ← List.append_assoc, List.append_assoc _ transport, parsed]
  dsimp only [bind, Except.bind]
  rw [addresses, known]

/-! ## The transports -/

/-- A UDP header and its data, whatever the two sides do about the checksum. -/
theorem UdpHeader.parse_layout (profile : Profile) (ipv4Hdr : Ipv4Header) (header : UdpHeader)
    {data : Buffer} {sum : UInt16} (offload : Bool) (fits : data.length ≤ 65527)
    (right : sum = 0 ∨ sum.toNat = bytesChecksum (udpCovered ipv4Hdr (header.layout data 0))) :
    UdpHeader.parse profile ipv4Hdr (header.layout data sum) offload = .ok (.ok (header, data)) := by
  obtain ⟨formed, carried⟩ := UdpHeader.isDatagram_layout header fits sum
  cases offload with
  | false =>
    rw [UdpHeader.parse_eq profile ipv4Hdr formed, carried, if_pos]
    obtain rfl | same := right
    · exact .inl rfl
    · exact .inr same
  | true =>
    have taken (offset : Nat) (inside : offset + 2 ≤ 8) :
        readU16At ((header.layout data sum).take UDP_HEADER_SIZE) offset =
          readU16At (header.layout data sum) offset :=
      readU16At_take inside
    unfold UdpHeader.parse
    dsimp only
    rw [if_neg (Nat.not_lt_of_le formed.minimal), taken 0 (by decide), taken 2 (by decide),
      taken 4 (by decide), if_neg (not_not.mpr formed.length), if_pos rfl, formed.source,
      formed.dest, formed.payload]
    rfl

/-- A UDP header is written with no checksum or with the one that is verified. -/
theorem UdpHeader.serialize_layout (profile : Profile) (ipv4Hdr : Ipv4Header) (header : UdpHeader)
    {data buf : Buffer} (offload : Bool) (size : buf.length = UDP_HEADER_SIZE)
    (fits : data.length ≤ 65527) :
    ∃ sum : UInt16, header.serialize profile buf ipv4Hdr data offload =
        .ok (header.frontBytes data ++ bigEndian 2 sum.toNat) ∧
      (sum = 0 ∨ sum.toNat = bytesChecksum (udpCovered ipv4Hdr (header.layout data 0))) := by
  have room : UDP_HEADER_SIZE ≤ buf.length := Nat.le_of_eq size.symm
  have nothing : buf.drop UDP_HEADER_SIZE = [] := List.drop_eq_nil_of_le (Nat.le_of_eq size)
  cases offload with
  | true =>
    refine ⟨0, ?_, .inl rfl⟩
    rw [UdpHeader.serialize, if_neg (Nat.not_lt_of_le room), if_pos rfl, nothing]
    dsimp only [bind, Except.bind]
    rw [List.append_nil]
  | false =>
    have number := UdpHeader.checksum_number ipv4Hdr (header.layout data 0)
    refine ⟨UInt16.ofNat (bytesChecksum (udpCovered ipv4Hdr (header.layout data 0))), ?_,
      .inr number⟩
    rw [UdpHeader.serialize_eq profile ipv4Hdr header room fits, nothing, List.append_nil, number]

/-- A datagram is handed to the UDP peer unless its data begins with a signature. -/
theorem dispatch_udp (profile : Profile) (offload : RxOffload) {datagram : UdpDatagram}
    {sum : UInt16} (fits : datagram.data.length ≤ 65527)
    (right : sum = 0 ∨ sum.toNat = bytesChecksum
      (udpCovered datagram.ipv4Hdr (datagram.udpHdr.layout datagram.data 0))) :
    dispatch profile offload datagram.ipv4Hdr .udp (datagram.udpHdr.layout datagram.data sum) =
        .ok (.ok (Packet.udp datagram).delivery) ↔ ¬ (Packet.udp datagram).Imitates := by
  obtain ⟨formed, -⟩ := UdpHeader.isDatagram_layout datagram.udpHdr fits sum
  have size := UdpHeader.layout_length datagram.udpHdr datagram.data sum
  have start : readU32At (datagram.udpHdr.layout datagram.data sum) 8 = readU32At datagram.data 0 :=
    congrArg (fun bytes => ofBigEndian (List.take 4 bytes)) formed.payload
  have migration : isTcpmig (datagram.udpHdr.layout datagram.data sum) = true ↔
      TCPMIG_HEADER_SIZE - UDP_HEADER_SIZE ≤ datagram.data.length ∧
        readU32At datagram.data 0 = MAGIC_NUMBER := by
    rw [isTcpmig, start, size, Bool.and_eq_true, decide_eq_true_eq, beq_iff_eq,
      Nat.sub_le_iff_le_add']
  have signal : isRpsSignal (datagram.udpHdr.layout datagram.data sum) = true ↔
      RPS_SIGNAL_HEADER_SIZE - UDP_HEADER_SIZE ≤ datagram.data.length ∧
        readU32At datagram.data 0 = RPS_SIGNAL_SIGNATURE := by
    rw [isRpsSignal, start, size, Bool.and_eq_true, decide_eq_true_eq, beq_iff_eq,
      Nat.sub_le_iff_le_add']
  unfold dispatch Packet.Imitates
  dsimp only
  rw [← migration, ← signal, not_or]
  by_cases magic : isTcpmig (datagram.udpHdr.layout datagram.data sum) = true
  · rw [if_pos magic]
    refine iff_of_false (fun same => ?_) (fun plain => plain.1 magic)
    rw [parseFromSlice_eq] at same
    unfold handOver at same
    dsimp only [bind, Except.bind] at same
    split at same
    · cases same
    · cases same
  · rw [if_neg magic]
    by_cases signature : isRpsSignal (datagram.udpHdr.layout datagram.data sum) = true
    · rw [if_pos signature]
      exact iff_of_false (fun same => by cases same) (fun plain => plain.2 signature)
    · rw [if_neg signature,
        UdpHeader.parse_layout profile datagram.ipv4Hdr datagram.udpHdr offload.udp fits right]
      exact iff_of_true rfl ⟨magic, signature⟩

/-- A migration message is handed to the migration peer. -/
theorem dispatch_tcpmig (profile : Profile) (offload : RxOffload) (segment : TcpMigSegment) :
    dispatch profile offload segment.ipv4Hdr .udp segment.datagram =
      .ok (.ok (Packet.tcpmig segment).delivery) := by
  have parsed := TcpMigHeader.parse_serialized segment.tcpmigHdr segment.ipv4Hdr segment.data
  obtain ⟨long, magic, -⟩ := TcpMigHeader.parse_accepted parsed
  have recognised : isTcpmig segment.datagram = true := by
    rw [isTcpmig, Bool.and_eq_true, decide_eq_true_eq, beq_iff_eq]
    exact ⟨long, magic⟩
  unfold dispatch
  dsimp only
  rw [if_pos recognised, parseFromSlice_eq, TcpMigSegment.datagram, parsed]
  rfl

/-! ## Frames -/

section Frames

variable {profile : Profile} {offload : RxOffload} {buffers : TransmitBuffers}

/-- An ARP message. -/
theorem arp_delivered (message : ArpMessage)
    (room : (Packet.arp message).headerSize ≤ buffers.header.length)
    (minimal : MIN_PAYLOAD_SIZE ≤ buffers.header.length) :
    ∃ frame, transmit profile buffers (.arp message) = .ok frame ∧
      doReceive profile offload frame = .ok (.ok (Packet.arp message).delivery) := by
  have size := List.length_take_of_le room
  have headerSize : (Packet.arp message).headerSize =
      ETHERNET2_HEADER_SIZE + ArpHeader.ARP_MESSAGE_SIZE := rfl
  have written : (Packet.arp message).writeHeader profile
      (buffers.header.take (Packet.arp message).headerSize) =
        .ok (message.ethernet2Hdr.bytes ++ message.header.bytes) := by
    generalize buffers.header.take (Packet.arp message).headerSize = buf at size
    rw [headerSize] at size
    have ethernetSize : ((buf.drop 0).take ETHERNET2_HEADER_SIZE).length = ETHERNET2_HEADER_SIZE := by
      rw [List.length_take, List.drop_zero]
      omega
    have pduSize : ((buf.drop ETHERNET2_HEADER_SIZE).take ArpHeader.ARP_MESSAGE_SIZE).length =
        ArpHeader.ARP_MESSAGE_SIZE := by
      rw [List.length_take, List.length_drop]
      omega
    change message.writeHeader buf = _
    unfold ArpMessage.writeHeader
    dsimp only [Ethernet2Header.computeSize]
    rw [slice_of_le (by omega), slice_of_le (by omega)]
    dsimp only [bind, Except.bind]
    rw [Ethernet2Header.serialize, if_neg (not_not.mpr ethernetSize)]
    dsimp only
    rw [ArpHeader.serialize, if_neg (Nat.not_lt_of_le (Nat.le_of_eq pduSize.symm)),
      List.drop_eq_nil_of_le (Nat.le_of_eq pduSize), List.drop_eq_nil_of_le (Nat.le_of_eq size),
      List.append_nil]
    dsimp only
    rw [List.append_nil]
  obtain ⟨count, transmitted⟩ := transmit_eq room minimal (.inr (Nat.zero_le _)) written
  refine ⟨_, transmitted, ?_⟩
  unfold doReceive
  rw [List.append_assoc, List.append_assoc, Ethernet2Header.parse_bytes]
  dsimp only [bind, Except.bind, ArpMessage.ethernet2Hdr]
  rw [ArpHeader.parse_bytes]
  rfl

/-- The space that is left for a transport header of the given size. -/
theorem transport_space {packet : Packet} {hdrSize : Nat}
    (room : packet.headerSize ≤ buffers.header.length)
    (size : packet.headerSize = ETHERNET2_HEADER_SIZE + IPV4_HEADER_MIN_SIZE + hdrSize) :
    (tcpSpace (buffers.header.take packet.headerSize)).length = hdrSize := by
  rw [tcpSpace, List.length_drop, List.length_take_of_le room, size, Nat.add_sub_cancel_left]

/-- An ICMPv4 message. -/
theorem icmpv4_delivered (message : Icmpv4Message)
    (room : (Packet.icmpv4 message).headerSize ≤ buffers.header.length)
    (minimal : MIN_PAYLOAD_SIZE ≤ buffers.header.length) :
    ∃ frame, transmit profile buffers (.icmpv4 message) = .ok frame ∧
      doReceive profile offload frame = .ok (.ok (Packet.icmpv4 message).delivery) := by
  have space := @transport_space buffers _ ICMPV4_HEADER_SIZE room rfl
  obtain ⟨sum, serialized, right⟩ := message.icmpv4Hdr.serialize_eq profile (Nat.le_of_eq space.symm)
  rw [List.drop_eq_nil_of_le (Nat.le_of_eq space), List.append_nil] at serialized
  have writes : (Packet.icmpv4 message).writeHeader profile =
      writeOverIpv4 profile (.forIpv4 message.dstLinkAddr message.srcLinkAddr)
        (message.ipv4Hdr.datagramHeader .icmpv4) ICMPV4_HEADER_SIZE
        ((Packet.icmpv4 message).takeBody.getD []).length (message.icmpv4Hdr.serialize profile) := rfl
  obtain ⟨frame, transmitted, received⟩ := delivered_over_ipv4 offload room minimal
    (.inr (Nat.zero_le _)) rfl writes serialized (message.icmpv4Hdr.layout_length sum)
    (by change 8 ≤ 65515; decide)
  refine ⟨frame, transmitted, ?_⟩
  rw [received]
  change dispatch profile offload message.ipv4Hdr .icmpv4 (message.icmpv4Hdr.layout sum ++ []) = _
  rw [List.append_nil]
  unfold dispatch
  dsimp only
  rw [Icmpv4Header.parse_layout profile message.icmpv4Hdr right]
  rfl

/-- A TCP segment. -/
theorem tcp_delivered (segment : TcpSegment) (formed : (Packet.tcp segment).WellFormed offload)
    (room : (Packet.tcp segment).headerSize ≤ buffers.header.length)
    (minimal : MIN_PAYLOAD_SIZE ≤ buffers.header.length)
    (bodies : buffers.managed = true ∨ (segment.data.getD []).length ≤ buffers.bodySize) :
    ∃ frame, transmit profile buffers (.tcp segment) = .ok frame ∧
      doReceive profile offload frame = .ok (.ok (Packet.tcp segment).delivery) := by
  obtain ⟨few, options, small, fits, checksums⟩ := formed
  have space := @transport_space buffers _ segment.tcpHdr.computeSize room rfl
  obtain ⟨sum, behind, serialized, size, reads, right⟩ := TcpHeader.serialize_eq profile
    ⟨segment.srcAddr, segment.dstAddr⟩ (segment.data.getD []) segment.txChecksumOffload few options
    (by omega) space
  have writes : (Packet.tcp segment).writeHeader profile =
      writeOverIpv4 profile (.forIpv4 segment.dstLinkAddr segment.srcLinkAddr)
        (Ipv4Header.datagramHeader ⟨segment.srcAddr, segment.dstAddr⟩ .tcp)
        segment.tcpHdr.computeSize ((Packet.tcp segment).takeBody.getD []).length fun buf =>
          segment.tcpHdr.serialize profile buf ⟨segment.srcAddr, segment.dstAddr⟩
            (segment.data.getD []) segment.txChecksumOffload := by
    funext buf
    change segment.packetBuf.writeHeader profile buf = _
    unfold TcpPacketBuf.writeHeader
    rw [bodySize_eq]
    rfl
  obtain ⟨frame, transmitted, received⟩ := delivered_over_ipv4 offload room minimal
    bodies rfl writes serialized size fits
  refine ⟨frame, transmitted, ?_⟩
  have parsed := @TcpHeader.parse_layout profile segment.tcpHdr ⟨segment.srcAddr, segment.dstAddr⟩
    behind (segment.data.getD []) _ sum offload.tcp small size reads (by
      intro verifies
      refine right (Bool.eq_false_iff.mpr fun left => ?_)
      cases verifies.symm.trans (checksums left))
  rw [received]
  unfold dispatch
  dsimp only
  change handOver _ (TcpHeader.parse profile _ (segment.tcpHdr.layout sum behind ++
    segment.data.getD []) offload.tcp) = _
  rw [parsed]
  rfl

/-- A migration message. -/
theorem tcpmig_delivered (segment : TcpMigSegment)
    (formed : (Packet.tcpmig segment).WellFormed offload)
    (room : (Packet.tcpmig segment).headerSize ≤ buffers.header.length)
    (minimal : MIN_PAYLOAD_SIZE ≤ buffers.header.length)
    (bodies : buffers.managed = true ∨ segment.data.length ≤ buffers.bodySize) :
    ∃ frame, transmit profile buffers (.tcpmig segment) = .ok frame ∧
      doReceive profile offload frame = .ok (.ok (Packet.tcpmig segment).delivery) := by
  have space := @transport_space buffers _ TCPMIG_HEADER_SIZE room rfl
  have serialized := TcpMigHeader.serializeInto_eq segment.tcpmigHdr segment.ipv4Hdr segment.data
    (Nat.le_of_eq space.symm)
  rw [List.drop_eq_nil_of_le (Nat.le_of_eq space), List.append_nil] at serialized
  have writes : (Packet.tcpmig segment).writeHeader profile =
      writeOverIpv4 profile (.forIpv4 segment.dstLinkAddr segment.srcLinkAddr)
        (segment.ipv4Hdr.datagramHeader .udp) TCPMIG_HEADER_SIZE
        ((Packet.tcpmig segment).takeBody.getD []).length fun buf =>
          segment.tcpmigHdr.serializeInto buf segment.ipv4Hdr segment.data := rfl
  obtain ⟨frame, transmitted, received⟩ := delivered_over_ipv4 offload room minimal
    bodies rfl writes serialized (TcpMigHeader.serialize_length _ _ _) formed
  exact ⟨frame, transmitted, received.trans (dispatch_tcpmig profile offload segment)⟩

/-- A UDP datagram. -/
theorem udp_delivered (datagram : UdpDatagram) (formed : (Packet.udp datagram).WellFormed offload)
    (room : (Packet.udp datagram).headerSize ≤ buffers.header.length)
    (minimal : MIN_PAYLOAD_SIZE ≤ buffers.header.length)
    (bodies : buffers.managed = true ∨ datagram.data.length ≤ buffers.bodySize) :
    ∃ frame, transmit profile buffers (.udp datagram) = .ok frame ∧
      (doReceive profile offload frame = .ok (.ok (Packet.udp datagram).delivery) ↔
        ¬ (Packet.udp datagram).Imitates) := by
  have fits : datagram.data.length ≤ 65527 := by
    have total : UDP_HEADER_SIZE + datagram.data.length ≤ 65515 := formed
    omega
  have space := @transport_space buffers _ UDP_HEADER_SIZE room rfl
  obtain ⟨sum, serialized, right⟩ := UdpHeader.serialize_layout profile datagram.ipv4Hdr
    datagram.udpHdr datagram.checksumOffload space fits
  have writes : (Packet.udp datagram).writeHeader profile =
      writeOverIpv4 profile (.forIpv4 datagram.dstLinkAddr datagram.srcLinkAddr)
        (datagram.ipv4Hdr.datagramHeader .udp) UDP_HEADER_SIZE
        ((Packet.udp datagram).takeBody.getD []).length fun buf =>
          datagram.udpHdr.serialize profile buf datagram.ipv4Hdr datagram.data
            datagram.checksumOffload := rfl
  have filled : (datagram.udpHdr.frontBytes datagram.data ++ bigEndian 2 sum.toNat).length =
      UDP_HEADER_SIZE := by
    rw [List.length_append, UdpHeader.frontBytes_length, bigEndian_length]
    rfl
  obtain ⟨frame, transmitted, received⟩ := delivered_over_ipv4 offload room minimal
    bodies rfl writes serialized filled formed
  refine ⟨frame, transmitted, ?_⟩
  rw [received]
  exact dispatch_udp profile offload fits right

end Frames

/-! ## Parsing never panics -/

/-- A check that refuses a datagram, or lets it pass. -/
theorem returns_of_passed {condition : Prop} [Decidable condition] {errno : Errno} {cause : String}
    {others : Checked (Except Fail (Ipv4DatagramHeader × Buffer))}
    (further : ¬ condition → Returns others) :
    Returns (if condition then Ipv4DatagramHeader.refuse errno cause else others) := by
  split
  · exact .ok _
  · rename_i passed
    exact further passed

/-- Parsing a network header returns. -/
theorem Ipv4DatagramHeader.parse_returns (profile : Profile) (buf : Buffer) :
    Returns (Ipv4DatagramHeader.parse profile buf) := by
  unfold Ipv4DatagramHeader.parse
  dsimp only
  refine returns_of_passed fun _ => returns_of_passed fun _ => returns_of_passed fun minimal =>
    returns_of_passed fun _ => returns_of_passed fun longer => returns_of_passed fun inside =>
    returns_of_passed fun _ => returns_of_passed fun _ => returns_of_passed fun _ =>
    returns_of_passed fun _ => ?_
  split
  · exact .ok _
  rename_i protocol _
  have room : 20 ≤ hdrSize buf := Nat.le_of_not_lt minimal
  rw [readU16At_take (by omega)] at longer inside
  rw [verify_eq profile room (Nat.le_of_not_lt longer) (Nat.le_of_not_lt inside)]
  split
  · exact .ok _
  · exact returns_of_passed fun _ => .ok _

/-- What a network header leaves is shorter than its total length can say. -/
theorem Ipv4DatagramHeader.payload_short {profile : Profile} {buf payload : Buffer}
    {header : Ipv4DatagramHeader} (parsed : parse profile buf = .ok (.ok (header, payload))) :
    payload.length < 2 ^ 16 := by
  obtain ⟨protocol, -, -, same⟩ := (parse_ok_iff profile buf _).mp parsed
  cases same
  have total := (readU16At buf 2).toNat_lt
  rw [payloadOf, List.length_drop, List.length_take]
  omega

/-- What was parsed is handed over, or its failure is. -/
theorem handOver_returns {α : Type} {deliver : α → Delivery} {parsed : Checked (Except Fail α)}
    (returns : Returns parsed) : Returns (handOver deliver parsed) := by
  obtain ⟨outcome, rfl⟩ := returns
  cases outcome with
  | error failure => exact .ok _
  | ok accepted => exact .ok _

/-- Parsing an ICMPv4 header returns. -/
theorem Icmpv4Header.parse_returns (profile : Profile) {buf : Buffer} (short : buf.length < 2 ^ 16) :
    Returns (Icmpv4Header.parse profile buf) := by
  unfold Icmpv4Header.parse
  split
  · exact .ok _
  rename_i long
  have body : (buf.drop ICMPV4_HEADER_SIZE).length < 2 ^ 16 := by
    rw [List.length_drop]
    omega
  obtain ⟨sum, computed⟩ := checksum_returns profile (buf.take ICMPV4_HEADER_SIZE) body
  refine Returns.bind computed ?_
  split
  · exact .ok _
  split
  · exact .ok _
  · exact Returns.bind (Buffer.adjust_of_le (Nat.le_of_not_lt long)) (.ok _)

/-- Parsing a UDP header returns. -/
theorem UdpHeader.parse_returns (profile : Profile) (ipv4Hdr : Ipv4Header) {buf : Buffer}
    (short : buf.length < 2 ^ 16) (offload : Bool) :
    Returns (UdpHeader.parse profile ipv4Hdr buf offload) := by
  unfold UdpHeader.parse
  dsimp only
  split
  · exact .ok _
  rename_i long
  split
  · exact .ok _
  have verified : Returns (if offload then .ok true
      else if readU16At (buf.take UDP_HEADER_SIZE) 6 = 0 then .ok true
      else do
        let computed ← UdpHeader.checksum profile ipv4Hdr (buf.take UDP_HEADER_SIZE)
          (buf.drop UDP_HEADER_SIZE)
        .ok (readU16At (buf.take UDP_HEADER_SIZE) 6 == computed) : Checked Bool) := by
    split
    · exact .ok _
    split
    · exact .ok _
    · exact Returns.bind
        (UdpHeader.checksum_datagram profile ipv4Hdr (Nat.le_of_not_lt long) short) (.ok _)
  obtain ⟨accepted, verified⟩ := verified
  refine Returns.bind verified ?_
  split
  · exact .ok _
  · exact .ok _

/-- A payload of any protocol is handed to its peer or refused. -/
theorem dispatch_returns (profile : Profile) (offload : RxOffload) (ipv4Hdr : Ipv4Header)
    (protocol : IpProtocol) {payload : Buffer} (short : payload.length < 2 ^ 16) :
    Returns (dispatch profile offload ipv4Hdr protocol payload) := by
  unfold dispatch
  cases protocol with
  | icmpv4 => exact handOver_returns (Icmpv4Header.parse_returns profile short)
  | tcp => exact handOver_returns (TcpHeader.parse_returns profile ipv4Hdr short offload.tcp)
  | udp =>
    dsimp only
    split
    · exact handOver_returns ⟨_, parseFromSlice_eq ipv4Hdr payload⟩
    split
    · exact .ok _
    · exact handOver_returns (UdpHeader.parse_returns profile ipv4Hdr short offload.udp)

/-- Whatever bytes arrive in a frame, the datagram in them is handed over or refused. -/
theorem receiveIpv4_returns (profile : Profile) (offload : RxOffload) (buf : Buffer) :
    Returns (receiveIpv4 profile offload buf) := by
  obtain ⟨outcome, parsed⟩ := Ipv4DatagramHeader.parse_returns profile buf
  refine Returns.bind parsed ?_
  cases outcome with
  | error failure => exact .ok _
  | ok accepted =>
    obtain ⟨header, payload⟩ := accepted
    exact dispatch_returns profile offload _ _ (Ipv4DatagramHeader.payload_short parsed)

/-- Parsing a link header returns. -/
theorem Ethernet2Header.parse_returns (buf : Buffer) : Returns (Ethernet2Header.parse buf) := by
  unfold Ethernet2Header.parse
  dsimp only
  split
  · exact .ok _
  rename_i long
  split
  · exact .ok _
  · exact Returns.bind (Buffer.adjust_of_le (Nat.le_of_not_lt long)) (.ok _)

/-- Whatever comes in, parsing it returns. -/
theorem doReceive_returns (profile : Profile) (offload : RxOffload) (bytes : Buffer) :
    Returns (doReceive profile offload bytes) := by
  obtain ⟨outcome, parsed⟩ := Ethernet2Header.parse_returns bytes
  refine Returns.bind parsed ?_
  cases outcome with
  | error failure => exact .ok _
  | ok accepted =>
    obtain ⟨header, payload⟩ := accepted
    dsimp only
    split
    · exact handOver_returns (.ok _)
    · exact receiveIpv4_returns profile offload payload
    · exact .ok _

/-! ## The stack -/

/-- What one stack transmits another one delivers. Every packet that fits is transmitted from
every buffer that has room for its headers and the least frame, and what the receiving stack
parses from the frame is what was handed to the runtime, unless it is a UDP datagram whose data
begins with the signature of a migration message or of a load signal. No bytes that arrive make
the parsing panic.

Proof: one lemma for each protocol, each assembled from the round trips of its headers
and of the frame around them. The parsers return on all bytes, since every read follows
a check of the length. -/
theorem frames_delivered (profile : Profile) (offload : RxOffload) :
    (∀ (packet : Packet) (buffers : TransmitBuffers), packet.WellFormed offload →
      packet.headerSize ≤ buffers.header.length → MIN_PAYLOAD_SIZE ≤ buffers.header.length →
      (buffers.managed = true ∨ (packet.takeBody.getD []).length ≤ buffers.bodySize) →
      ∃ frame, transmit profile buffers packet = .ok frame ∧
        (doReceive profile offload frame = .ok (.ok packet.delivery) ↔ ¬ packet.Imitates)) ∧
    ∀ bytes, ∃ outcome, doReceive profile offload bytes = .ok outcome := by
  refine ⟨fun packet buffers formed room minimal bodies => ?_, doReceive_returns profile offload⟩
  cases packet with
  | arp message =>
    obtain ⟨frame, transmitted, received⟩ := arp_delivered message room minimal
    exact ⟨frame, transmitted, iff_of_true received not_false⟩
  | icmpv4 message =>
    obtain ⟨frame, transmitted, received⟩ := icmpv4_delivered message room minimal
    exact ⟨frame, transmitted, iff_of_true received not_false⟩
  | tcp segment =>
    obtain ⟨frame, transmitted, received⟩ := tcp_delivered segment formed room minimal bodies
    exact ⟨frame, transmitted, iff_of_true received not_false⟩
  | tcpmig segment =>
    obtain ⟨frame, transmitted, received⟩ := tcpmig_delivered segment formed room minimal bodies
    exact ⟨frame, transmitted, iff_of_true received not_false⟩
  | udp datagram => exact udp_delivered datagram formed room minimal bodies

/-- A datagram from 10.0.0.1 to 10.0.0.2 with the given data. -/
def UdpDatagram.sample (data : Buffer) : UdpDatagram where
  dstLinkAddr := 2#48
  srcLinkAddr := 1#48
  ipv4Hdr := ⟨0x0a000001#32, 0x0a000002#32⟩
  udpHdr := ⟨5000, 80⟩
  data
  checksumOffload := false

/-- Buffers of 64 bytes that hold garbage. -/
def TransmitBuffers.sample : TransmitBuffers := ⟨List.replicate 64 255, 64, false⟩

/-- A datagram with one byte is padded and delivered. One that begins with the signature of a
migration message does not reach the UDP peer. -/
theorem frames_delivered_padded :
    (∃ frame, transmit .dev .sample (.udp (.sample [7])) = .ok frame ∧
      doReceive .dev ⟨false, false⟩ frame =
        .ok (.ok (.udp ⟨0x0a000001#32, 0x0a000002#32⟩ ⟨5000, 80⟩ [7]))) ∧
    ∃ frame, transmit .dev .sample (.udp (.sample
        ([0xCA, 0xFE, 0xDE, 0xAD] ++ List.replicate 16 0))) = .ok frame ∧
      doReceive .dev ⟨false, false⟩ frame ≠ .ok (.ok (.udp ⟨0x0a000001#32, 0x0a000002#32⟩ ⟨5000, 80⟩
        ([0xCA, 0xFE, 0xDE, 0xAD] ++ List.replicate 16 0))) := by
  obtain ⟨delivers, -⟩ := frames_delivered .dev ⟨false, false⟩
  obtain ⟨frame, transmitted, received⟩ := delivers (.udp (.sample [7])) .sample
    (by change 9 ≤ 65515; decide) (by decide) (by decide) (.inr (by decide))
  obtain ⟨frame', transmitted', received'⟩ := delivers (.udp (.sample
    ([0xCA, 0xFE, 0xDE, 0xAD] ++ List.replicate 16 0))) .sample (by change 28 ≤ 65515; decide)
    (by decide) (by decide) (.inr (by decide))
  refine ⟨⟨frame, transmitted, received.mpr ?_⟩, frame', transmitted', mt received'.mp ?_⟩
  · rintro (⟨long, -⟩ | ⟨long, -⟩)
    · exact absurd long (by decide)
    · exact absurd long (by decide)
  · exact not_not.mpr (.inl ⟨by decide, by decide⟩)

end Capybara
