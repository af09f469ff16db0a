import Capybara.Udp.HeaderRoundTrip

/-!
# ICMPv4 headers

`icmpv4/datagram/header.rs` and `icmpv4/datagram/protocol.rs`. A header has eight bytes: the
type, the code, the checksum and four bytes that depend on the type. Only the echo messages
use these.

A header is written with the checksum of a message that has no body, and messages with a body
are never transmitted; parsing verifies the checksum with the body.
-/

namespace Capybara

open Wire TcpMigHeader

/-- `ICMPV4_HEADER_SIZE`. -/
def ICMPV4_HEADER_SIZE : Nat := 8

/-- `Icmpv4Type2`. -/
inductive Icmpv4Type2 where
  | echoReply (id seqNum : UInt16)
  | destinationUnreachable
  | sourceQuench
  | redirectMessage
  | echoRequest (id seqNum : UInt16)
  | routerAdvertisement
  | routerSolicitation
  | timeExceeded
  | badIpHeader
  | timestamp
  | timestampReply
  deriving DecidableEq, Repr

namespace Icmpv4Type2

/-- `Icmpv4Type2::parse`. -/
def parse (typeByte : UInt8) (restOfHeader : Buffer) : Except Fail Icmpv4Type2 :=
  match typeByte.toNat with
  | 0 => .ok (.echoReply (readU16At restOfHeader 0) (readU16At restOfHeader 2))
  | 3 => .ok .destinationUnreachable
  | 4 => .ok .sourceQuench
  | 5 => .ok .redirectMessage
  | 8 => .ok (.echoRequest (readU16At restOfHeader 0) (readU16At restOfHeader 2))
  | 9 => .ok .routerAdvertisement
  | 10 => .ok .routerSolicitation
  | 11 => .ok .timeExceeded
  | 12 => .ok .badIpHeader
  | 13 => .ok .timestamp
  | 14 => .ok .timestampReply
  | _ => .error ⟨.EBADMSG, "invalid type byte"⟩

/-- `Icmpv4Type2::serialize`. -/
def serialize : Icmpv4Type2 → UInt8 × Buffer
  | .echoReply id seqNum => (0, bigEndian 2 id.toNat ++ bigEndian 2 seqNum.toNat)
  | .destinationUnreachable => (3, [0, 0, 0, 0])
  | .sourceQuench => (4, [0, 0, 0, 0])
  | .redirectMessage => (5, [0, 0, 0, 0])
  | .echoRequest id seqNum => (8, bigEndian 2 id.toNat ++ bigEndian 2 seqNum.toNat)
  | .routerAdvertisement => (9, [0, 0, 0, 0])
  | .routerSolicitation => (10, [0, 0, 0, 0])
  | .timeExceeded => (11, [0, 0, 0, 0])
  | .badIpHeader => (12, [0, 0, 0, 0])
  | .timestamp => (13, [0, 0, 0, 0])
  | .timestampReply => (14, [0, 0, 0, 0])

/-- A type has four bytes beside its code. -/
theorem serialize_length (icmpv4Type : Icmpv4Type2) : icmpv4Type.serialize.2.length = 4 := by
  cases icmpv4Type <;> rfl

/-- The two numbers of an echo message are read from where they have been written. -/
theorem echo_fields (id seqNum : UInt16) :
    readU16At (bigEndian 2 id.toNat ++ bigEndian 2 seqNum.toNat) 0 = id ∧
      readU16At (bigEndian 2 id.toNat ++ bigEndian 2 seqNum.toNat) 2 = seqNum := by
  have first := readU16At_eq [] (bigEndian 2 seqNum.toNat) id
  have second := readU16At_eq (bigEndian 2 id.toNat) [] seqNum
  rw [List.append_nil, bigEndian_length] at second
  exact ⟨first, second⟩

/-- Every type is parsed from what it is written to. -/
theorem parse_codes (icmpv4Type : Icmpv4Type2) :
    parse icmpv4Type.serialize.1 icmpv4Type.serialize.2 = .ok icmpv4Type := by
  cases icmpv4Type with
  | echoReply id seqNum =>
    obtain ⟨first, second⟩ := echo_fields id seqNum
    change Except.ok (echoReply _ _) = _
    rw [serialize, first, second]
  | echoRequest id seqNum =>
    obtain ⟨first, second⟩ := echo_fields id seqNum
    change Except.ok (echoRequest _ _) = _
    rw [serialize, first, second]
  | _ => rfl

end Icmpv4Type2

/-- `Icmpv4Header`. -/
structure Icmpv4Header where
  protocol : Icmpv4Type2
  code : UInt8
  deriving DecidableEq, Repr

namespace Icmpv4Header

/-- What `checksum` adds up, in order: the header without the checksum, and the body. -/
def checksumWords (buf body : Buffer) : List Nat :=
  (words (buf.take 2) ++ words ((buf.take ICMPV4_HEADER_SIZE).drop 4) ++ words body ++
    words (lastWord body)).map UInt16.toNat

/-- `Icmpv4Header::checksum`. -/
def checksum (profile : Profile) (buf body : Buffer) : Checked UInt16 := do
  let state ← (checksumWords buf body).foldlM (addU32 profile) 0xFFFF
  .ok (UInt16.ofNat (0xFFFF - foldCarries state state))

/-- `Icmpv4Header::parse`. -/
def parse (profile : Profile) (buf : Buffer) : Checked (Except Fail (Icmpv4Header × Buffer)) :=
  if buf.length < ICMPV4_HEADER_SIZE then
    .ok (.error ⟨.EBADMSG, "ICMPv4 datagram too small for header"⟩)
  else do
    let hdrBuf := buf.take ICMPV4_HEADER_SIZE
    let typeByte := hdrBuf.getD 0 0
    let code := hdrBuf.getD 1 0
    let computed ← checksum profile hdrBuf (buf.drop ICMPV4_HEADER_SIZE)
    if readU16At hdrBuf 2 ≠ computed then .ok (.error ⟨.EBADMSG, "ICMPv4 checksum mismatch"⟩)
    else
      match Icmpv4Type2.parse typeByte ((hdrBuf.drop 4).take 4) with
      | .error failure => .ok (.error failure)
      | .ok protocol => do
        let rest ← buf.adjust ICMPV4_HEADER_SIZE
        .ok (.ok (⟨protocol, code⟩, rest))

/-- The bytes of a header with the given checksum. -/
def layout (header : Icmpv4Header) (sum : UInt16) : Buffer :=
  [header.protocol.serialize.1, header.code] ++ bigEndian 2 sum.toNat ++
    header.protocol.serialize.2

/-- `Icmpv4Header::serialize` into a buffer, whatever it held before. -/
def serialize (profile : Profile) (header : Icmpv4Header) (buf : Buffer) : Checked Buffer :=
  if buf.length < ICMPV4_HEADER_SIZE then .error .sliceOutOfRange
  else do
    let (typeByte, restOfHeader) := header.protocol.serialize
    let sum ← checksum profile ([typeByte, header.code] ++ (buf.drop 2).take 2 ++ restOfHeader) []
    .ok ([typeByte, header.code] ++ bigEndian 2 sum.toNat ++ restOfHeader ++
      buf.drop ICMPV4_HEADER_SIZE)

/-! ## The round trip -/

/-- A header has eight bytes. -/
theorem layout_length (header : Icmpv4Header) (sum : UInt16) :
    (header.layout sum).length = ICMPV4_HEADER_SIZE := by
  simp [layout, header.protocol.serialize_length, ICMPV4_HEADER_SIZE]

/-- The checksum reads everything but the two bytes in which it is carried. -/
theorem checksumWords_carried (first second : UInt8) {two two' back : Buffer}
    (size : two.length = 2) (size' : two'.length = 2) (body : Buffer) :
    checksumWords ([first, second] ++ two ++ back) body =
      checksumWords ([first, second] ++ two' ++ back) body := by
  obtain ⟨a, b, rfl⟩ := List.length_eq_two.mp size
  obtain ⟨c, d, rfl⟩ := List.length_eq_two.mp size'
  rfl

/-- The checksum of a message that is not too long is computed. -/
theorem checksum_returns (profile : Profile) (buf : Buffer) {body : Buffer}
    (short : body.length < 2 ^ 16) : ∃ sum, checksum profile buf body = .ok sum := by
  have small : ∀ number ∈ checksumWords buf body, number ≤ 0xFFFF := by
    intro number member
    obtain ⟨word, -, rfl⟩ := List.mem_map.mp member
    exact Nat.le_of_lt_succ word.toNat_lt
  have front := words_length (buf.take 2)
  have back := words_length ((buf.take ICMPV4_HEADER_SIZE).drop 4)
  have inside := words_length body
  have last := words_length (lastWord body)
  rw [lastWord_length] at last
  have few : 2 * (checksumWords buf body).length ≤ body.length + 8 := by
    unfold checksumWords
    rw [List.length_map, List.length_append, List.length_append, List.length_append]
    rw [List.length_take] at front
    rw [List.length_drop, List.length_take, ICMPV4_HEADER_SIZE] at back
    rw [ICMPV4_HEADER_SIZE]
    omega
  exact ⟨_, by rw [checksum, foldlM_addU32 profile small (by omega)]; rfl⟩

/-- A header is written with the checksum that a receiver computes for it. -/
theorem serialize_eq (profile : Profile) (header : Icmpv4Header) {buf : Buffer}
    (room : ICMPV4_HEADER_SIZE ≤ buf.length) :
    ∃ sum, header.serialize profile buf = .ok (header.layout sum ++ buf.drop ICMPV4_HEADER_SIZE) ∧
      checksum profile (header.layout sum) [] = .ok sum := by
  have garbage : ((buf.drop 2).take 2).length = 2 := by
    unfold ICMPV4_HEADER_SIZE at room
    rw [List.length_take, List.length_drop]
    omega
  obtain ⟨sum, computed⟩ := @checksum_returns profile
    ([header.protocol.serialize.1, header.code] ++ (buf.drop 2).take 2 ++ header.protocol.serialize.2)
    [] (by decide)
  refine ⟨sum, ?_, ?_⟩
  · rw [serialize, if_neg (Nat.not_lt_of_le room)]
    dsimp only
    rw [computed]
    rfl
  · rw [← computed, checksum, checksum, layout,
      checksumWords_carried _ _ (bigEndian_length 2 sum.toNat) garbage]

/-- What is written for a message is parsed to its header. -/
theorem parse_layout (profile : Profile) (header : Icmpv4Header) {sum : UInt16}
    (right : checksum profile (header.layout sum) [] = .ok sum) :
    parse profile (header.layout sum) = .ok (.ok (header, [])) := by
  have size := header.layout_length sum
  have inside : ICMPV4_HEADER_SIZE ≤ (header.layout sum).length := Nat.le_of_eq size.symm
  have whole : (header.layout sum).take ICMPV4_HEADER_SIZE = header.layout sum :=
    List.take_of_length_le (Nat.le_of_eq size)
  have nothing : (header.layout sum).drop ICMPV4_HEADER_SIZE = [] :=
    List.drop_eq_nil_of_le (Nat.le_of_eq size)
  have carried : readU16At (header.layout sum) 2 = sum := by
    have read := readU16At_eq [header.protocol.serialize.1, header.code]
      header.protocol.serialize.2 sum
    rwa [← List.append_assoc] at read
  have behind : ((header.layout sum).drop 4).take 4 = header.protocol.serialize.2 := by
    have front : ([header.protocol.serialize.1, header.code] ++ bigEndian 2 sum.toNat).length = 4 := by
      simp
    rw [layout, List.drop_left' front,
      List.take_of_length_le (Nat.le_of_eq header.protocol.serialize_length)]
  unfold parse
  rw [if_neg (Nat.not_lt_of_le inside)]
  dsimp only
  rw [whole, nothing, right, carried, behind]
  dsimp only [bind, Except.bind]
  rw [if_neg (not_not.mpr rfl), Buffer.adjust_of_le inside, nothing]
  have kind : (header.layout sum).getD 0 0 = header.protocol.serialize.1 := rfl
  have code : (header.layout sum).getD 1 0 = header.code := rfl
  rw [kind, code, header.protocol.parse_codes]

end Icmpv4Header

end Capybara
