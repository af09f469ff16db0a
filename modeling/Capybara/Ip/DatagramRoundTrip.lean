import Capybara.Ip.Datagram
import Capybara.TcpMig.Datagram

/-!
# IPv4 headers survive the wire

A datagram is accepted exactly if it passes the checks on its fields and carries the checksum
that its first twenty bytes have. That checksum is the complement of a sum that is not zero,
so it is never the one that is refused outright. The payload is what lies between the header
and the total length, and so without the padding of the link layer.
-/

namespace Capybara

open Wire TcpMigHeader

namespace IpProtocol

/-- Every protocol has a number of its own. -/
theorem tryFrom_toU8 (protocol : IpProtocol) : tryFrom protocol.toU8 = .ok protocol := by
  cases protocol <;> rfl

end IpProtocol

namespace Ipv4DatagramHeader

variable {profile : Profile} {buf : Buffer} {protocol : IpProtocol} {header : Ipv4DatagramHeader}

/-! ## The checksum -/

/-- The checksum of a header. -/
def computed (buf : Buffer) : UInt16 :=
  let state := 0xFFFF + (checksumWords buf).sum
  UInt16.ofNat (0xFFFF - foldCarries state state)

/-- The words that are summed have 16 bits. -/
theorem checksumWords_small (buf : Buffer) : ∀ number ∈ checksumWords buf, number ≤ 0xFFFF := by
  intro number member
  obtain ⟨word, -, rfl⟩ := List.mem_map.mp member
  exact Nat.le_of_lt_succ word.toNat_lt

/-- Of the 20 bytes of the header, nine words are summed: all but the checksum. -/
theorem checksumWords_few (buf : Buffer) : (checksumWords buf).length ≤ 9 := by
  have front := words_length (buf.take 10)
  have back := words_length ((buf.take 20).drop 12)
  rw [List.length_take] at front
  rw [List.length_drop, List.length_take] at back
  rw [checksumWords, List.length_map, List.length_append]
  omega

/-- The checksum is computed without overflow. -/
theorem computeChecksum_eq (profile : Profile) (minimal : IPV4_HEADER_MIN_SIZE ≤ buf.length) :
    computeChecksum profile buf = .ok (computed buf) := by
  have few := checksumWords_few buf
  rw [computeChecksum, if_neg (Nat.not_lt_of_le minimal),
    foldlM_addU32 profile (checksumWords_small buf) (by omega)]
  rfl

/-- The checksum is not the one that is refused. -/
theorem computed_ne (buf : Buffer) : computed buf ≠ 0xFFFF := complement_ne (by omega)

/-- The checksum covers twenty bytes. -/
theorem computed_take {size : Nat} (minimal : IPV4_HEADER_MIN_SIZE ≤ size) :
    computed (buf.take size) = computed buf := by
  unfold IPV4_HEADER_MIN_SIZE at minimal
  unfold computed checksumWords
  rw [List.take_take, List.take_take, Nat.min_eq_left minimal, Nat.min_eq_left (by omega)]

/-! ## What is accepted -/

/-- The datagram passes every check that comes before that of its checksum. -/
structure Supported (buf : Buffer) (protocol : IpProtocol) : Prop where
  version : (ofBytes buf protocol).version = IPV4_VERSION
  minimal : IPV4_HEADER_MIN_SIZE ≤ hdrSize buf
  longer : hdrSize buf ≤ (ofBytes buf protocol).totalLength.toNat
  inside : (ofBytes buf protocol).totalLength.toNat ≤ buf.length
  good : (ofBytes buf protocol).flags &&& IPV4_CTRL_FLAG_EVIL = 0
  last : (ofBytes buf protocol).flags &&& IPV4_CTRL_FLAG_MF = 0
  first : (ofBytes buf protocol).fragmentOffset = 0
  alive : (ofBytes buf protocol).ttl ≠ 0
  known : IpProtocol.tryFrom (buf.getD 9 0) = .ok protocol

/-- What lies between the header and the total length. -/
def payloadOf (buf : Buffer) : Buffer := (buf.take (readU16At buf 2).toNat).drop (hdrSize buf)

/-- All fields are read from the first twenty bytes. -/
theorem ofBytes_take {size : Nat} (minimal : 20 ≤ size) :
    ofBytes (buf.take size) protocol = ofBytes buf protocol := by
  unfold ofBytes
  rw [getD_take (by omega), getD_take (by omega), getD_take (by omega), getD_take (by omega),
    readU16At_take (by omega), readU16At_take (by omega), readU16At_take (by omega),
    readU16At_take (by omega), readU32At_take (by omega), readU32At_take (by omega)]

/-- The checksum stands at offset 10. -/
theorem ofBytes_headerChecksum : (ofBytes buf protocol).headerChecksum = readU16At buf 10 := rfl

/-- The total length stands at offset 2. -/
theorem ofBytes_totalLength : (ofBytes buf protocol).totalLength = readU16At buf 2 := rfl

/-- Whether the checksum is right decides about a datagram that is otherwise supported. -/
theorem verify_eq (profile : Profile) (minimal : IPV4_HEADER_MIN_SIZE ≤ hdrSize buf)
    (longer : hdrSize buf ≤ (readU16At buf 2).toNat) (inside : (readU16At buf 2).toNat ≤ buf.length) :
    verify profile buf protocol =
      if readU16At buf 10 = computed buf then .ok (.ok (ofBytes buf protocol, payloadOf buf))
      else if readU16At buf 10 = 0xFFFF then refuse .EBADMSG "ipv4 checksum invalid"
      else refuse .EBADMSG "ipv4 checksum mismatch" := by
  have covered : IPV4_HEADER_MIN_SIZE ≤ (buf.take (hdrSize buf)).length := by
    rw [List.length_take]
    omega
  have cut : (do
      let behind ← buf.adjust (hdrSize buf)
      let payload ← behind.trim (buf.length - (readU16At buf 2).toNat)
      .ok (.ok (ofBytes buf protocol, payload)) :
        Checked (Except Fail (Ipv4DatagramHeader × Buffer))) =
      .ok (.ok (ofBytes buf protocol, payloadOf buf)) := by
    have shorter : buf.length - (readU16At buf 2).toNat ≤ (buf.drop (hdrSize buf)).length := by
      rw [List.length_drop]
      omega
    have kept : (buf.drop (hdrSize buf)).length - (buf.length - (readU16At buf 2).toNat) =
        (readU16At buf 2).toNat - hdrSize buf := by
      rw [List.length_drop]
      omega
    rw [Buffer.adjust_of_le (by omega)]
    dsimp only [bind, Except.bind]
    rw [Buffer.trim_of_le shorter, kept, payloadOf, List.drop_take]
  unfold verify
  dsimp only
  rw [ofBytes_take minimal, computeChecksum_eq profile covered, computed_take minimal,
    ofBytes_headerChecksum, ofBytes_totalLength]
  dsimp only [bind, Except.bind]
  by_cases right : readU16At buf 10 = computed buf
  · rw [if_neg (by rw [right]; exact computed_ne buf), if_neg (not_not.mpr right), if_pos right]
    exact cut
  · rw [if_neg right, if_pos right]

/-- The checks before that of the checksum. -/
theorem parse_supported (profile : Profile) (supported : Supported buf protocol) :
    parse profile buf = verify profile buf protocol := by
  obtain ⟨version, minimal, longer, inside, good, last, first, alive, known⟩ := supported
  have room : 20 ≤ hdrSize buf := minimal
  unfold ofBytes at version longer inside good last first alive
  dsimp only at version longer inside good last first alive
  unfold parse
  dsimp only
  rw [readU16At_take (by omega), readU16At_take (by omega), getD_take (by omega),
    getD_take (by omega), getD_take (by omega), if_neg (by
      unfold IPV4_DATAGRAM_MIN_SIZE
      omega), if_neg (not_not.mpr version), if_neg (Nat.not_lt_of_le minimal), if_neg (by omega),
    if_neg (by omega), if_neg (by omega), if_neg (not_not.mpr good), if_neg (not_not.mpr last),
    if_neg (not_not.mpr first), if_neg alive, known]

/-- A datagram that is accepted has passed the check. -/
theorem passed {condition : Prop} [Decidable condition] {errno : Errno} {cause : String}
    {others : Checked (Except Fail (Ipv4DatagramHeader × Buffer))}
    {result : Ipv4DatagramHeader × Buffer}
    (accepted : (if condition then refuse errno cause else others) = .ok (.ok result)) :
    ¬ condition ∧ others = .ok (.ok result) := by
  by_cases fails : condition
  · rw [if_pos fails] at accepted
    cases accepted
  · rw [if_neg fails] at accepted
    exact ⟨fails, accepted⟩

/-- What is accepted has passed the checks. -/
theorem supported_of_parse {result : Ipv4DatagramHeader × Buffer}
    (parsed : parse profile buf = .ok (.ok result)) : ∃ protocol, Supported buf protocol := by
  obtain ⟨-, parsed⟩ := passed parsed
  obtain ⟨version, parsed⟩ := passed parsed
  obtain ⟨minimal, parsed⟩ := passed parsed
  have room : 20 ≤ hdrSize buf := Nat.le_of_not_lt minimal
  rw [readU16At_take (by omega), readU16At_take (by omega), getD_take (by omega),
    getD_take (by omega), getD_take (by omega)] at parsed
  obtain ⟨-, parsed⟩ := passed parsed
  obtain ⟨longer, parsed⟩ := passed parsed
  obtain ⟨inside, parsed⟩ := passed parsed
  obtain ⟨good, parsed⟩ := passed parsed
  obtain ⟨last, parsed⟩ := passed parsed
  obtain ⟨first, parsed⟩ := passed parsed
  obtain ⟨alive, parsed⟩ := passed parsed
  cases known : IpProtocol.tryFrom (buf.getD 9 0) with
  | error failure =>
    rw [known] at parsed
    cases parsed
  | ok protocol =>
    exact ⟨protocol, not_not.mp version, room, Nat.le_of_not_lt longer, Nat.le_of_not_lt inside,
      not_not.mp good, not_not.mp last, not_not.mp first, alive, known⟩

/-- Exactly what is accepted, and what is returned for it. -/
theorem parse_ok_iff (profile : Profile) (buf : Buffer) (result : Ipv4DatagramHeader × Buffer) :
    parse profile buf = .ok (.ok result) ↔
      ∃ protocol, Supported buf protocol ∧ readU16At buf 10 = computed buf ∧
        result = (ofBytes buf protocol, payloadOf buf) := by
  constructor
  · intro parsed
    obtain ⟨protocol, supported⟩ := supported_of_parse parsed
    rw [parse_supported profile supported,
      verify_eq profile supported.minimal supported.longer supported.inside] at parsed
    by_cases right : readU16At buf 10 = computed buf
    · rw [if_pos right] at parsed
      cases parsed
      exact ⟨protocol, supported, right, rfl⟩
    · rw [if_neg right] at parsed
      obtain ⟨-, parsed⟩ := passed parsed
      cases parsed
  · rintro ⟨protocol, supported, right, rfl⟩
    rw [parse_supported profile supported,
      verify_eq profile supported.minimal supported.longer supported.inside, if_pos right]

/-! ## What is written -/

/-- The bytes of a header with the given total length and checksum. -/
def layout (header : Ipv4DatagramHeader) (totalLength checksum : UInt16) : Buffer :=
  header.frontBytes totalLength.toNat ++ bigEndian 2 checksum.toNat ++ header.backBytes

/-- The bytes of a header with the checksum that they have. -/
def signed (header : Ipv4DatagramHeader) (totalLength : UInt16) : Buffer :=
  header.layout totalLength (computed (header.layout totalLength 0))

/-- Ten bytes stand in front of the checksum. -/
theorem frontBytes_length (header : Ipv4DatagramHeader) (totalLength : Nat) :
    (header.frontBytes totalLength).length = 10 := by
  simp [frontBytes]

/-- Eight bytes stand behind it. -/
theorem backBytes_length (header : Ipv4DatagramHeader) : header.backBytes.length = 8 := by
  simp [backBytes, octets]

/-- A header that is written has no options and 20 bytes. -/
theorem layout_length (header : Ipv4DatagramHeader) (totalLength checksum : UInt16) :
    (header.layout totalLength checksum).length = IPV4_HEADER_MIN_SIZE := by
  simp [layout, frontBytes_length, backBytes_length, IPV4_HEADER_MIN_SIZE]

/-- The checksum reads everything but the two bytes in which it is carried. -/
theorem computed_carried {front back : Buffer} (checksum checksum' : Buffer)
    (before : front.length = 10) (two : checksum.length = 2) (two' : checksum'.length = 2) :
    computed (front ++ checksum ++ back) = computed (front ++ checksum' ++ back) := by
  have parts {sum : Buffer} (size : sum.length = 2) : (front ++ sum ++ back).take 10 = front ∧
      ((front ++ sum ++ back).take 20).drop 12 = back.take 8 := by
    refine ⟨?_, ?_⟩
    · rw [List.append_assoc, List.take_left' before]
    · rw [List.drop_take, List.drop_left' (by rw [List.length_append, before, size])]
  obtain ⟨front₁, back₁⟩ := parts two
  obtain ⟨front₂, back₂⟩ := parts two'
  unfold computed checksumWords
  rw [front₁, back₁, front₂, back₂]

/-- The checksum that is computed does not depend on the one that is written. -/
theorem computed_layout (header : Ipv4DatagramHeader) (totalLength checksum : UInt16) :
    computed (header.layout totalLength checksum) = computed (header.layout totalLength 0) :=
  computed_carried _ _ (header.frontBytes_length _) (bigEndian_length _ _) (bigEndian_length _ _)

/-- A header is written with its checksum if its total length can be. -/
theorem serialize_eq {payloadLen : Nat} {totalLength : UInt16}
    (room : buf.length = IPV4_HEADER_MIN_SIZE)
    (counted : Ipv4Header.totalLength profile payloadLen = .ok totalLength.toNat) :
    header.serialize profile buf payloadLen = .ok (header.signed totalLength) := by
  have garbage : ((buf.drop 10).take 2).length = 2 := by
    rw [List.length_take, List.length_drop, room]
    rfl
  have size : (header.frontBytes totalLength.toNat ++ (buf.drop 10).take 2 ++
      header.backBytes).length = IPV4_HEADER_MIN_SIZE := by
    rw [List.length_append, List.length_append, frontBytes_length, garbage, backBytes_length]
    rfl
  have sum : computed (header.frontBytes totalLength.toNat ++ (buf.drop 10).take 2 ++
      header.backBytes) = computed (header.layout totalLength 0) :=
    computed_carried _ _ (header.frontBytes_length _) garbage (bigEndian_length _ _)
  rw [serialize, if_neg (not_not.mpr room), counted]
  dsimp only [bind, Except.bind]
  rw [computeChecksum_eq profile (Nat.le_of_eq size.symm), sum]
  rfl

/-! ## What is read from it -/

/-- A header whose fields a receiver supports and that fit their bits. -/
structure WellFormed (header : Ipv4DatagramHeader) : Prop where
  version : header.version = IPV4_VERSION
  ihlFits : header.ihl.toNat < 16
  dscpFits : header.dscp.toNat < 64
  ecnFits : header.ecn.toNat < 4
  whole : header.flags = 0 ∨ header.flags = IPV4_CTRL_FLAG_DF
  first : header.fragmentOffset = 0
  alive : header.ttl ≠ 0

/-- The version and the header length can both be read from their byte. -/
theorem versionByte_eq (formed : header.WellFormed) :
    ((header.version <<< 4) ||| header.ihl) >>> 4 = header.version ∧
      ((header.version <<< 4) ||| header.ihl) &&& 0xF = header.ihl := by
  have nibbles : ∀ ihl : Fin 16,
      ((IPV4_VERSION <<< 4) ||| UInt8.ofNat ihl.val) >>> 4 = IPV4_VERSION ∧
        ((IPV4_VERSION <<< 4) ||| UInt8.ofNat ihl.val) &&& 0xF = UInt8.ofNat ihl.val := by
    decide
  have here := nibbles ⟨header.ihl.toNat, formed.ihlFits⟩
  dsimp only at here
  rwa [UInt8.ofNat_toNat, ← formed.version] at here

/-- The two parts of the service byte can both be read from it. -/
theorem serviceByte_eq (formed : header.WellFormed) :
    ((header.dscp <<< 2) ||| (header.ecn &&& 3)) >>> 2 = header.dscp ∧
      ((header.dscp <<< 2) ||| (header.ecn &&& 3)) &&& 3 = header.ecn := by
  have parts : ∀ (dscp : Fin 64) (ecn : Fin 4),
      ((UInt8.ofNat dscp.val <<< 2) ||| (UInt8.ofNat ecn.val &&& 3)) >>> 2 = UInt8.ofNat dscp.val ∧
        ((UInt8.ofNat dscp.val <<< 2) ||| (UInt8.ofNat ecn.val &&& 3)) &&& 3 =
          UInt8.ofNat ecn.val := by
    decide +kernel
  have here := parts ⟨header.dscp.toNat, formed.dscpFits⟩ ⟨header.ecn.toNat, formed.ecnFits⟩
  dsimp only at here
  rwa [UInt8.ofNat_toNat, UInt8.ofNat_toNat] at here

/-- The flags and the offset, which is zero, can both be read from their word. -/
theorem flagsWord_eq (formed : header.WellFormed) :
    let word := (header.flags.toUInt16 <<< 13) ||| (header.fragmentOffset &&& 0x1FFF)
    UInt8.ofNat (word.toNat / 256) >>> 5 = header.flags ∧
      word &&& 0x1FFF = header.fragmentOffset := by
  rw [formed.first]
  obtain none | whole := formed.whole
  · rw [none]
    decide
  · rw [whole]
    decide

/-- The fields at the places where they are read. -/
theorem fields_eq (header : Ipv4DatagramHeader) (totalLength checksum : UInt16) (rest : Buffer) :
    let bytes := header.layout totalLength checksum ++ rest
    readU16At bytes 2 = totalLength ∧ readU16At bytes 4 = header.identification ∧
    readU16At bytes 6 = (header.flags.toUInt16 <<< 13) ||| (header.fragmentOffset &&& 0x1FFF) ∧
    readU16At bytes 10 = checksum ∧ readU32At bytes 12 = header.srcAddr.toNat ∧
    readU32At bytes 16 = header.destAddr.toNat := by
  let start := [(header.version <<< 4) ||| header.ihl, (header.dscp <<< 2) ||| (header.ecn &&& 3)]
  let word := (header.flags.toUInt16 <<< 13) ||| (header.fragmentOffset &&& 0x1FFF)
  let total := bigEndian 2 totalLength.toNat
  let number := bigEndian 2 header.identification.toNat
  let flags := bigEndian 2 word.toNat
  let middle := [header.ttl, header.protocol.toU8]
  let sum := bigEndian 2 checksum.toNat
  have counted := readU16At_eq start (number ++ flags ++ middle ++ sum ++ header.backBytes ++ rest)
    totalLength
  have numbered := readU16At_eq (start ++ total) (flags ++ middle ++ sum ++ header.backBytes ++ rest)
    header.identification
  have flagged := readU16At_eq (start ++ total ++ number) (middle ++ sum ++ header.backBytes ++ rest)
    word
  have carried := readU16At_eq (start ++ total ++ number ++ flags ++ middle)
    (header.backBytes ++ rest) checksum
  have source := readU32At_eq (start ++ total ++ number ++ flags ++ middle ++ sum)
    (octets header.destAddr ++ rest) header.srcAddr.isLt
  have dest := readU32At_eq (start ++ total ++ number ++ flags ++ middle ++ sum ++
    octets header.srcAddr) rest header.destAddr.isLt
  simp only [start, total, number, flags, middle, sum, word, backBytes, octets, List.append_assoc,
    List.length_append, List.length_cons, List.length_nil, bigEndian_length,
    Nat.reduceAdd] at counted numbered flagged carried source dest
  simp only [layout, frontBytes, backBytes, octets, List.append_assoc]
  exact ⟨counted, numbered, flagged, carried, source, dest⟩

/-- What is read from a written header is that header. -/
theorem ofBytes_layout (formed : header.WellFormed) (totalLength checksum : UInt16)
    (rest : Buffer) :
    ofBytes (header.layout totalLength checksum ++ rest) header.protocol =
      { header with totalLength, headerChecksum := checksum } := by
  obtain ⟨counted, numbered, flagged, carried, source, dest⟩ :=
    fields_eq header totalLength checksum rest
  obtain ⟨version, ihl⟩ := versionByte_eq formed
  obtain ⟨dscp, ecn⟩ := serviceByte_eq formed
  obtain ⟨flags, offset⟩ := flagsWord_eq formed
  have byte0 : (header.layout totalLength checksum ++ rest).getD 0 0 =
      (header.version <<< 4) ||| header.ihl := rfl
  have byte1 : (header.layout totalLength checksum ++ rest).getD 1 0 =
      (header.dscp <<< 2) ||| (header.ecn &&& 3) := rfl
  have byte6 : (header.layout totalLength checksum ++ rest).getD 6 0 =
      UInt8.ofNat (((header.flags.toUInt16 <<< 13) |||
        (header.fragmentOffset &&& 0x1FFF)).toNat / 256) := rfl
  have byte8 : (header.layout totalLength checksum ++ rest).getD 8 0 = header.ttl := rfl
  simp only [ofBytes, counted, numbered, flagged, carried, source, dest, byte0, byte1, byte6, byte8,
    version, ihl, dscp, ecn, flags, offset, BitVec.ofNat_toNat, BitVec.setWidth_eq]

/-- The header length as it is read from a written header. -/
theorem hdrSize_layout (formed : header.WellFormed) (totalLength checksum : UInt16)
    (rest : Buffer) :
    hdrSize (header.layout totalLength checksum ++ rest) = header.ihl.toNat * 4 :=
  congrArg (fun ihl => UInt8.toNat ihl * 4) (versionByte_eq formed).2

/-- A header that carries its checksum, with something behind it, is accepted if the total length
lies behind the header and inside of the whole. -/
theorem parse_layout (profile : Profile) (formed : header.WellFormed)
    {totalLength checksum : UInt16} {rest : Buffer}
    (right : checksum = computed (header.layout totalLength 0))
    (minimal : IPV4_HEADER_MIN_SIZE ≤ header.ihl.toNat * 4)
    (longer : header.ihl.toNat * 4 ≤ totalLength.toNat)
    (inside : totalLength.toNat ≤ IPV4_HEADER_MIN_SIZE + rest.length) :
    parse profile (header.layout totalLength checksum ++ rest) =
      .ok (.ok ({ header with totalLength, headerChecksum := checksum },
        ((header.layout totalLength checksum ++ rest).take totalLength.toNat).drop
          (header.ihl.toNat * 4))) := by
  have read := ofBytes_layout formed totalLength checksum rest
  obtain ⟨counted, -, -, carried, -, -⟩ := fields_eq header totalLength checksum rest
  have size := hdrSize_layout formed totalLength checksum rest
  have number : (header.layout totalLength checksum ++ rest).getD 9 0 = header.protocol.toU8 := rfl
  have length := layout_length header totalLength checksum
  have sum : computed (header.layout totalLength checksum ++ rest) = checksum := by
    rw [← @computed_take (header.layout totalLength checksum ++ rest) _ (Nat.le_refl _),
      List.take_left' length, computed_layout, right]
  have flags : header.flags &&& IPV4_CTRL_FLAG_EVIL = 0 ∧ header.flags &&& IPV4_CTRL_FLAG_MF = 0 := by
    obtain none | whole := formed.whole
    · rw [none]
      decide
    · rw [whole]
      decide
  generalize header.layout totalLength checksum = written at *
  have supported : Supported (written ++ rest) header.protocol := by
    constructor
    case minimal => rwa [size]
    case known => rw [number, IpProtocol.tryFrom_toU8]
    case longer => rwa [read, size]
    all_goals rw [read]
    case version => exact formed.version
    case inside => rwa [List.length_append, length]
    case good => exact flags.1
    case last => exact flags.2
    case first => exact formed.first
    case alive => exact formed.alive
  refine (parse_ok_iff profile _ _).mpr ⟨header.protocol, supported, carried.trans sum.symm, ?_⟩
  rw [read, payloadOf, size, counted]

/-- What is accepted of a written header with something behind it. -/
theorem of_parse_layout (formed : header.WellFormed) {totalLength checksum : UInt16}
    {rest payload : Buffer} {received : Ipv4DatagramHeader}
    (parsed : parse profile (header.layout totalLength checksum ++ rest) =
      .ok (.ok (received, payload))) :
    header.ihl.toNat * 4 ≤ totalLength.toNat ∧
      received.toIpv4Header = header.toIpv4Header ∧
      payload = ((header.layout totalLength checksum ++ rest).take totalLength.toNat).drop
        (header.ihl.toNat * 4) := by
  obtain ⟨counted, -, -, -, source, dest⟩ := fields_eq header totalLength checksum rest
  have size := hdrSize_layout formed totalLength checksum rest
  obtain ⟨protocol, supported, -, same⟩ := (parse_ok_iff profile _ _).mp parsed
  have longer := supported.longer
  obtain ⟨rfl, rfl⟩ := Prod.mk.inj same
  refine ⟨?_, ?_, ?_⟩
  · rwa [ofBytes_totalLength, counted, size] at longer
  · simp only [ofBytes, source, dest, BitVec.ofNat_toNat, BitVec.setWidth_eq]
  · rw [payloadOf, size, counted]

/-- What is left under a mask has no more bits than the mask. -/
theorem masked_lt (byte : UInt8) {mask : UInt8} (bits : Nat) (small : mask.toNat < 2 ^ bits) :
    (byte &&& mask).toNat < 2 ^ bits := by
  rw [UInt8.toNat_and]
  exact Nat.and_lt_two_pow _ small

/-- A byte that is shifted has fewer bits. -/
theorem shifted_lt (byte : UInt8) {shift : UInt8} {bound : Nat}
    (small : 255 >>> (shift.toNat % 8) < bound) : (byte >>> shift).toNat < bound := by
  rw [UInt8.toNat_shiftRight]
  refine Nat.lt_of_le_of_lt ?_ small
  rw [Nat.shiftRight_eq_div_pow, Nat.shiftRight_eq_div_pow]
  exact Nat.div_le_div_right (Nat.le_of_lt_succ byte.toNat_lt)

/-- What parsing returns: a header that is supported, and a payload that fits the datagram. -/
theorem parse_wellFormed {payload : Buffer}
    (parsed : parse profile buf = .ok (.ok (header, payload))) :
    header.WellFormed ∧ IPV4_HEADER_MIN_SIZE ≤ header.ihl.toNat * 4 ∧
      header.ihl.toNat * 4 + payload.length < 2 ^ 16 := by
  obtain ⟨protocol, supported, -, same⟩ := (parse_ok_iff profile _ _).mp parsed
  obtain ⟨rfl, rfl⟩ := Prod.mk.inj same
  have inside := supported.inside
  have longer := supported.longer
  have small := (readU16At buf 2).toNat_lt
  rw [ofBytes_totalLength] at inside longer
  refine ⟨⟨supported.version, ?_, ?_, ?_, ?_, supported.first, supported.alive⟩,
    supported.minimal, ?_⟩
  · exact masked_lt _ 4 (by decide)
  · exact shifted_lt _ (by decide)
  · exact masked_lt _ 2 (by decide)
  · have known : ∀ flags : Fin 8, UInt8.ofNat flags.val &&& IPV4_CTRL_FLAG_EVIL = 0 →
        UInt8.ofNat flags.val &&& IPV4_CTRL_FLAG_MF = 0 →
        UInt8.ofNat flags.val = 0 ∨ UInt8.ofNat flags.val = IPV4_CTRL_FLAG_DF := by
      decide
    have flags := known ⟨(buf.getD 6 0 >>> 5).toNat, shifted_lt _ (by decide)⟩
    rw [UInt8.ofNat_toNat] at flags
    exact flags supported.good supported.last
  · have length : (payloadOf buf).length = (readU16At buf 2).toNat - hdrSize buf := by
      rw [payloadOf, List.length_drop, List.length_take, Nat.min_eq_left inside]
    change hdrSize buf + (payloadOf buf).length < 2 ^ 16
    omega

/-! ## The round trip -/

/-- A header of the stack is well formed. -/
theorem new_wellFormed (srcAddr destAddr : Ipv4Addr) (protocol : IpProtocol) :
    (new srcAddr destAddr protocol).WellFormed :=
  have small : IPV4_IHL_NO_OPTIONS.toNat < 16 := by decide
  have zero (bound : Nat) (positive : 0 < bound) : (0 : UInt8).toNat < bound := positive
  have alive : DEFAULT_IPV4_TTL ≠ 0 := by decide
  ⟨rfl, small, zero _ (by decide), zero _ (by decide), .inr rfl, rfl, alive⟩

/-- The total length of a datagram that is not too long. -/
theorem totalLength_eq (profile : Profile) {payloadLen : Nat}
    (fits : IPV4_HEADER_MIN_SIZE + payloadLen < 2 ^ 16) :
    Ipv4Header.totalLength profile payloadLen =
      .ok (UInt16.ofNat (IPV4_HEADER_MIN_SIZE + payloadLen)).toNat := by
  rw [Ipv4Header.totalLength, Nat.mod_eq_of_lt (by omega), addU16, if_pos fits,
    UInt16.toNat_ofNat_of_lt' fits]

/-- The IPv4 header codec. A new header is written into any buffer of its size in front of a
payload that fits a datagram. What has been written, with the payload and any padding behind it,
is parsed to a header with the same addresses, protocol, flags and time to live, and to exactly
the payload. No header has the checksum that parsing refuses.

Proof: the layout that is written is parsed with its own total length, which cuts the
payload from the padding. The checksum that is computed is the complement of a folded
sum that is never zero, since it starts at `0xFFFF`. -/
theorem parse_serialize_new (profile : Profile) :
    (∀ (srcAddr destAddr : Ipv4Addr) (protocol : IpProtocol) (buf payload padding : Buffer),
      buf.length = IPV4_HEADER_MIN_SIZE → payload.length ≤ 65515 →
      ∃ written header,
        (new srcAddr destAddr protocol).serialize profile buf payload.length = .ok written ∧
        parse profile (written ++ payload ++ padding) = .ok (.ok (header, payload)) ∧
        header.srcAddr = srcAddr ∧ header.destAddr = destAddr ∧ header.protocol = protocol ∧
        header.flags = (new srcAddr destAddr protocol).flags ∧
        header.ttl = (new srcAddr destAddr protocol).ttl) ∧
    ∀ hdrBuf : Buffer, IPV4_HEADER_MIN_SIZE ≤ hdrBuf.length →
      ∃ checksum, computeChecksum profile hdrBuf = .ok checksum ∧ checksum ≠ 0xFFFF := by
  refine ⟨?_, fun hdrBuf minimal => ⟨_, computeChecksum_eq profile minimal, computed_ne hdrBuf⟩⟩
  intro srcAddr destAddr protocol buf payload padding room small
  have fits : IPV4_HEADER_MIN_SIZE + payload.length < 2 ^ 16 := by
    unfold IPV4_HEADER_MIN_SIZE
    omega
  have number := UInt16.toNat_ofNat_of_lt' fits
  have size := layout_length (new srcAddr destAddr protocol)
    (UInt16.ofNat (IPV4_HEADER_MIN_SIZE + payload.length))
  have parsed := @parse_layout _ profile (new_wellFormed srcAddr destAddr protocol)
    (UInt16.ofNat (IPV4_HEADER_MIN_SIZE + payload.length)) _ (payload ++ padding) rfl
    (Nat.le_refl _) (by rw [number]; exact Nat.le_add_right _ _)
    (by rw [number, List.length_append]; omega)
  have ihl : (new srcAddr destAddr protocol).ihl.toNat * 4 = IPV4_HEADER_MIN_SIZE := rfl
  rw [number, ← List.append_assoc, List.take_left' (by rw [List.length_append, size]), ihl,
    List.drop_left' (size _)] at parsed
  exact ⟨_, _, serialize_eq room (totalLength_eq profile fits), parsed, rfl, rfl, rfl, rfl, rfl⟩

/-- An odd payload with padding behind it, written over a garbage buffer. -/
theorem parse_serialize_new_padded :
    ∃ written header,
      (new 1 2 .udp).serialize .dev (List.replicate 20 255) 3 = .ok written ∧
      parse .dev (written ++ [1, 2, 3] ++ [0, 0]) = .ok (.ok (header, [1, 2, 3])) ∧
      header.srcAddr = 1 ∧ header.destAddr = 2 ∧ header.protocol = .udp ∧
      header.flags = (new 1 2 .udp).flags ∧ header.ttl = (new 1 2 .udp).ttl :=
  (parse_serialize_new .dev).1 1 2 .udp (List.replicate 20 255) [1, 2, 3] [0, 0] (by decide)
    (by decide)

end Ipv4DatagramHeader

end Capybara
