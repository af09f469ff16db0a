import Capybara.Ip.Checksum
import Capybara.Tcp.Segment
import Capybara.TcpMig.Slices

/-!
# TCP headers on the wire

`segment.rs`. A header is written into a buffer of its computed size: twenty fixed
bytes, the options one after the other, a byte that ends them if there are any, and
zeros. Parsing takes the length of the header from the data offset, verifies the
checksum, and reads options from a cursor until they end.

The checksum starts from `0xffff`, adds 16-bit words in a `u32`, and then takes
`0xffff` off as often as it has to. It is computed before its own two bytes are
written and never reads them.
-/

namespace Capybara

open Wire TcpMigHeader

/-- `MIN_TCP_HEADER_SIZE`. -/
def MIN_TCP_HEADER_SIZE : Nat := 20

/-- `MAX_TCP_HEADER_SIZE`. -/
def MAX_TCP_HEADER_SIZE : Nat := 60

/-- `MAX_TCP_OPTIONS`. -/
def MAX_TCP_OPTIONS : Nat := 5

/-! ## Options -/

/-- The eight bytes of a block. -/
def SelectiveAcknowlegement.bytes (block : SelectiveAcknowlegement) : Buffer :=
  bigEndian 4 block.first.toU32 ++ bigEndian 4 block.last.toU32

namespace TcpOptions2

/-- `TcpOptions2::compute_size`. -/
def computeSize : TcpOptions2 → Nat
  | .noOperation => 1
  | .maximumSegmentSize _ => 4
  | .windowScale _ => 3
  | .selectiveAcknowlegementPermitted => 2
  | .selectiveAcknowlegement sacks => 2 + 8 * sacks.length
  | .timestamp _ _ => 10

/-- `TcpOptions2::serialize`. The array of the source has room for four blocks. -/
def serialize : TcpOptions2 → Wire.Writer Fault UInt8
  | .noOperation => .put .sliceOutOfRange [1]
  | .maximumSegmentSize mss => .put .sliceOutOfRange ([2, 4] ++ bigEndian 2 mss.toNat)
  | .windowScale scale => .put .sliceOutOfRange [3, 3, scale]
  | .selectiveAcknowlegementPermitted => .put .sliceOutOfRange [4, 2]
  | .selectiveAcknowlegement sacks =>
    if sacks.length ≤ 4 then
      .put .sliceOutOfRange ([5, UInt8.ofNat (2 + 8 * sacks.length)] ++
        sacks.flatMap SelectiveAcknowlegement.bytes)
    else .fail .sliceOutOfRange
  | .timestamp senderTimestamp echoTimestamp =>
    .put .sliceOutOfRange ([8, 10] ++ bigEndian 4 senderTimestamp.toNat ++
      bigEndian 4 echoTimestamp.toNat)

end TcpOptions2

/-! ## The checksum -/

/-- `IpProtocol::TCP`. -/
def IP_PROTOCOL_TCP : Nat := 6

/-- What `tcp_checksum` adds up, in order: the pseudo header, the fixed header around the
checksum, the options and the data. -/
def checksumWords (ipv4Hdr : Ipv4Header) (header data : Buffer) : List Nat :=
  (words (octets ipv4Hdr.srcAddr) ++ words (octets ipv4Hdr.destAddr)).map UInt16.toNat ++
    [IP_PROTOCOL_TCP, asU32 (header.length + data.length)] ++
    (words (header.take 16) ++ words ((header.take MIN_TCP_HEADER_SIZE).drop 18) ++
      words (header.drop MIN_TCP_HEADER_SIZE) ++ words data ++ words (lastWord data)).map UInt16.toNat

/-- `tcp_checksum`. -/
def tcpChecksum (profile : Profile) (ipv4Hdr : Ipv4Header) (header data : Buffer) : Checked UInt16 :=
  if header.length < MIN_TCP_HEADER_SIZE then .error .sliceOutOfRange
  else if header.length > MIN_TCP_HEADER_SIZE ∧ header.length % 2 ≠ 0 then .error .oddHeaderLength
  else do
    let state ← (checksumWords ipv4Hdr header data).foldlM (addU32 profile) 0xFFFF
    .ok (UInt16.ofNat (0xFFFF - foldCarries state state))

namespace TcpHeader

/-! ## Serialising -/

/-- `TcpHeader::compute_size`: with a byte for the end of the options, rounded up to a
multiple of four. -/
def computeSize (header : TcpHeader) : Nat :=
  let size := MIN_TCP_HEADER_SIZE + (header.options.map TcpOptions2.computeSize).sum
  let size := if header.options ≠ [] then size + 1 else size
  (size + 3) / 4 * 4

/-- A flag at its place in a byte. -/
def bit (set : Bool) (position : UInt8) : UInt8 := if set then 1 <<< position else 0

/-- The data offset and the NS flag. -/
def offsetByte (header : TcpHeader) : UInt8 :=
  (UInt8.ofNat (header.computeSize / 4) <<< 4) ||| bit header.ns 0

/-- The other flags. -/
def flagsByte (header : TcpHeader) : UInt8 :=
  bit header.cwr 7 ||| bit header.ece 6 ||| bit header.urg 5 ||| bit header.ack 4 |||
    bit header.psh 3 ||| bit header.rst 2 ||| bit header.syn 1 ||| bit header.fin 0

/-- The bytes before the checksum. -/
def frontBytes (header : TcpHeader) : Buffer :=
  bigEndian 2 header.srcPort.toNat ++ bigEndian 2 header.dstPort.toNat ++
    bigEndian 4 header.seqNum.toU32 ++ bigEndian 4 header.ackNum.toU32 ++
    [header.offsetByte, header.flagsByte] ++ bigEndian 2 header.windowSize.toNat

/-- The options, and the end of them if there are any. -/
def serializeOptions (header : TcpHeader) : Wire.Writer Fault UInt8 :=
  .sequence (header.options.map TcpOptions2.serialize ++
    if header.options ≠ [] then [.put .sliceOutOfRange [0]] else [])

/-- `TcpHeader::serialize` into a buffer, whatever it held before. -/
def serialize (profile : Profile) (header : TcpHeader) (buf : Buffer) (ipv4Hdr : Ipv4Header)
    (data : Buffer) (txChecksumOffload : Bool) : Checked Buffer :=
  if buf.length < MIN_TCP_HEADER_SIZE then .error .sliceOutOfRange
  else do
    let (options, remainder) ← header.serializeOptions (buf.drop MIN_TCP_HEADER_SIZE)
    let back := bigEndian 2 header.urgentPointer.toNat ++ options ++
      List.replicate remainder.length 0
    let checksum ← (
      if txChecksumOffload then .ok 0
      else tcpChecksum profile ipv4Hdr
        (header.frontBytes ++ (buf.drop 16).take 2 ++ back) data)
    .ok (header.frontBytes ++ bigEndian 2 checksum.toNat ++ back)

/-! ## Parsing -/

/-- What one round of the option loop finds. -/
inductive OptionFound where
  | endOfOptions
  | noOperation
  | option (option : TcpOptions2)
  deriving DecidableEq, Repr

/-- The failure of a cursor that is read past its end: `From<io::Error>` for `Fail`. -/
def ioError : Fail where
  errno := Errno.EIO
  cause := "I/O error"

/-- `read_u8`. -/
def readU8 : Reader Fail UInt8 UInt8 := fun bytes =>
  match bytes with
  | [] => .error ioError
  | byte :: rest => .ok (byte, rest)

/-- `read_u16` and `read_u32`, by their number of bytes. -/
def readBigEndian (width : Nat) : Reader Fail UInt8 Nat := do
  let bytes ← Reader.take ioError width
  pure (ofBigEndian bytes)

/-- One block. -/
def readBlock : Reader Fail UInt8 SelectiveAcknowlegement := do
  let first ← readBigEndian 4
  let last ← readBigEndian 4
  pure ⟨SeqNumber.ofU32 first, SeqNumber.ofU32 last⟩

/-- Refuse the packet. -/
def reject {α : Type} (cause : String) : Reader Fail UInt8 α := fun _ => .error ⟨.EBADMSG, cause⟩

/-- One round of the option loop, from the kind of the option on. -/
def readOption : Reader Fail UInt8 OptionFound := do
  let optionKind ← readU8
  match optionKind.toNat with
  | 0 => pure .endOfOptions
  | 1 => pure .noOperation
  | 2 => do
    let optionLength ← readU8
    if optionLength ≠ 4 then reject "MSS size was not 4"
    else do
      let mss ← readBigEndian 2
      pure (.option (.maximumSegmentSize (UInt16.ofNat mss)))
  | 3 => do
    let optionLength ← readU8
    if optionLength ≠ 3 then reject "window scale size was not 3"
    else do
      let windowScale ← readU8
      pure (.option (.windowScale windowScale))
  | 4 => do
    let optionLength ← readU8
    if optionLength ≠ 2 then reject "SACK permitted size was not 2"
    else pure (.option .selectiveAcknowlegementPermitted)
  | 5 => do
    let optionLength ← readU8
    if optionLength = 10 ∨ optionLength = 18 ∨ optionLength = 26 ∨ optionLength = 34 then do
      let sacks ← Reader.times ((optionLength.toNat - 2) / 8) readBlock
      pure (.option (.selectiveAcknowlegement sacks))
    else reject "invalid SACK size"
  | 8 => do
    let optionLength ← readU8
    if optionLength ≠ 10 then reject "TCP timestamp size was not 10"
    else do
      let senderTimestamp ← readBigEndian 4
      let echoTimestamp ← readBigEndian 4
      pure (.option (.timestamp (UInt32.ofNat senderTimestamp) (UInt32.ofNat echoTimestamp)))
  | _ => reject "invalid TCP option"

/-- The option loop, with the options found so far. Every round reads a byte, so as many
rounds as there are bytes are enough. -/
def readOptions : (rounds : Nat) → List TcpOptions2 → Buffer → Except Fail (List TcpOptions2)
  | _, optionList, [] => .ok optionList
  | 0, optionList, _ :: _ => .ok optionList
  | rounds + 1, optionList, byte :: rest => do
    let (found, rest) ← readOption.run (byte :: rest)
    match found with
    | .endOfOptions => .ok optionList
    | .noOperation => readOptions rounds optionList rest
    | .option option =>
      if optionList.length ≥ MAX_TCP_OPTIONS then
        .error ⟨.EBADMSG, "too many TCP options provided"⟩
      else readOptions rounds (optionList ++ [option]) rest

/-- Whether a flag is set in a byte. -/
def flag (byte : UInt8) (bit : UInt8) : Bool := byte &&& (1 <<< bit) != 0

/-- `TcpHeader::parse`. -/
def parse (profile : Profile) (ipv4Hdr : Ipv4Header) (buf : Buffer) (rxChecksumOffload : Bool) :
    Checked (Except Fail (TcpHeader × Buffer)) :=
  if buf.length < MIN_TCP_HEADER_SIZE then .ok (.error ⟨.EBADMSG, "TCP segment too small"⟩)
  else do
    let offset ← byteAt buf 12
    let dataOffset := (offset >>> 4).toNat * 4
    if buf.length < dataOffset then
      return .error ⟨.EBADMSG, "TCP segment smaller than data offset"⟩
    if dataOffset < MIN_TCP_HEADER_SIZE then return .error ⟨.EBADMSG, "TCP data offset too small"⟩
    if dataOffset > MAX_TCP_HEADER_SIZE then return .error ⟨.EBADMSG, "TCP data offset too large"⟩
    let hdrBuf ← range buf 0 dataOffset
    let data ← range buf dataOffset buf.length
    let srcPort ← readU16In hdrBuf 0 2
    let dstPort ← readU16In hdrBuf 2 4
    let seqNum ← readU32In hdrBuf 4 8
    let ackNum ← readU32In hdrBuf 8 12
    let high ← byteAt hdrBuf 12
    let flags ← byteAt hdrBuf 13
    let windowSize ← readU16In hdrBuf 14 16
    let verified ← (
      if rxChecksumOffload then .ok true
      else do
        let carried ← readU16In hdrBuf 16 18
        let checksum ← tcpChecksum profile ipv4Hdr hdrBuf data
        .ok (carried == checksum))
    if !verified then return .error ⟨.EBADMSG, "TCP checksum mismatch"⟩
    let urgentPointer ← readU16In hdrBuf 18 20
    let optionBytes ← range hdrBuf MIN_TCP_HEADER_SIZE dataOffset
    match readOptions optionBytes.length [] optionBytes with
    | .error failure => return .error failure
    | .ok options =>
      return .ok ({
        srcPort
        dstPort
        seqNum := SeqNumber.ofU32 seqNum
        ackNum := SeqNumber.ofU32 ackNum
        ns := flag high 0
        cwr := flag flags 7
        ece := flag flags 6
        urg := flag flags 5
        ack := flag flags 4
        psh := flag flags 3
        rst := flag flags 2
        syn := flag flags 1
        fin := flag flags 0
        windowSize
        urgentPointer
        options }, data)

/-! ## Parsing inside the buffer -/

/-- The fields of a header with the given options. -/
def ofBytes (hdrBuf : Buffer) (options : List TcpOptions2) : TcpHeader :=
  let flags := hdrBuf.getD 13 0
  { srcPort := readU16At hdrBuf 0
    dstPort := readU16At hdrBuf 2
    seqNum := SeqNumber.ofU32 (readU32At hdrBuf 4)
    ackNum := SeqNumber.ofU32 (readU32At hdrBuf 8)
    ns := flag (hdrBuf.getD 12 0) 0
    cwr := flag flags 7
    ece := flag flags 6
    urg := flag flags 5
    ack := flag flags 4
    psh := flag flags 3
    rst := flag flags 2
    syn := flag flags 1
    fin := flag flags 0
    windowSize := readU16At hdrBuf 14
    urgentPointer := readU16At hdrBuf 18
    options }

/-- What is parsed, with reads that cannot fail. -/
def parseInside (profile : Profile) (ipv4Hdr : Ipv4Header) (buf : Buffer) (rxChecksumOffload : Bool) :
    Checked (Except Fail (TcpHeader × Buffer)) :=
  let dataOffset := (buf.getD 12 0 >>> 4).toNat * 4
  let hdrBuf := buf.take dataOffset
  let data := buf.drop dataOffset
  if buf.length < MIN_TCP_HEADER_SIZE then .ok (.error ⟨.EBADMSG, "TCP segment too small"⟩)
  else if buf.length < dataOffset then
    .ok (.error ⟨.EBADMSG, "TCP segment smaller than data offset"⟩)
  else if dataOffset < MIN_TCP_HEADER_SIZE then .ok (.error ⟨.EBADMSG, "TCP data offset too small"⟩)
  else if dataOffset > MAX_TCP_HEADER_SIZE then .ok (.error ⟨.EBADMSG, "TCP data offset too large"⟩)
  else do
    let verified ← (
      if rxChecksumOffload then .ok true
      else do
        let checksum ← tcpChecksum profile ipv4Hdr hdrBuf data
        .ok (readU16At hdrBuf 16 == checksum))
    if !verified then .ok (.error ⟨.EBADMSG, "TCP checksum mismatch"⟩)
    else
      let optionBytes := hdrBuf.drop MIN_TCP_HEADER_SIZE
      match readOptions optionBytes.length [] optionBytes with
      | .error failure => .ok (.error failure)
      | .ok options => .ok (.ok (ofBytes hdrBuf options, data))

/-- Parsing takes no slice and no index outside of the buffer. -/
theorem parse_eq (profile : Profile) (ipv4Hdr : Ipv4Header) (buf : Buffer)
    (rxChecksumOffload : Bool) : parse profile ipv4Hdr buf rxChecksumOffload =
      parseInside profile ipv4Hdr buf rxChecksumOffload := by
  unfold parse parseInside
  dsimp only
  by_cases short : buf.length < MIN_TCP_HEADER_SIZE
  · rw [if_pos short, if_pos short]
  have long : 20 ≤ buf.length := Nat.le_of_not_lt short
  rw [if_neg short, if_neg short, byteAt_inside (by omega)]
  dsimp only [bind, Except.bind, pure, Except.pure]
  generalize (buf.getD 12 0 >>> 4).toNat * 4 = dataOffset
  by_cases outside : buf.length < dataOffset
  · rw [if_pos outside, if_pos outside]
  by_cases small : dataOffset < MIN_TCP_HEADER_SIZE
  · rw [if_neg outside, if_neg outside, if_pos small, if_pos small]
  by_cases large : dataOffset > MAX_TCP_HEADER_SIZE
  · rw [if_neg outside, if_neg outside, if_neg small, if_neg small, if_pos large, if_pos large]
  have inside : dataOffset ≤ buf.length := Nat.le_of_not_lt outside
  have minimal : 20 ≤ dataOffset := Nat.le_of_not_lt small
  have size : (buf.take dataOffset).length = dataOffset := List.length_take_of_le inside
  have word {start : Nat} (before : start + 2 ≤ 20) :=
    @readU16In_inside (buf.take dataOffset) start (by omega)
  have number {start : Nat} (before : start + 4 ≤ 20) :=
    @readU32In_inside (buf.take dataOffset) start (by omega)
  have source := @word 0 (by decide)
  have dest := @word 2 (by decide)
  have sequence := @number 4 (by decide)
  have acknowledged := @number 8 (by decide)
  have high := @byteAt_inside (buf.take dataOffset) 12 (by omega)
  have flags := @byteAt_inside (buf.take dataOffset) 13 (by omega)
  have window := @word 14 (by decide)
  have carried := @word 16 (by decide)
  have urgent := @word 18 (by decide)
  have options : range (buf.take dataOffset) MIN_TCP_HEADER_SIZE dataOffset =
      .ok ((buf.take dataOffset).drop MIN_TCP_HEADER_SIZE) := by
    have rest := @range_rest (buf.take dataOffset) MIN_TCP_HEADER_SIZE (by rw [size]; exact minimal)
    rwa [size] at rest
  rw [if_neg outside, if_neg outside, if_neg small, if_neg small, if_neg large, if_neg large,
    range_front inside, range_rest inside]
  dsimp only
  rw [source, dest, sequence, acknowledged, high, flags, window, carried, urgent, options]
  rfl

end TcpHeader

end Capybara
