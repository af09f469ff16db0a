import Capybara.TcpMig.Datagram
import Capybara.TcpMig.Slices

/-!
# Migration headers in arbitrary bytes

`TcpMigHeader::parse_from_slice` and `serialize` with every slice and index that they take of a
buffer, each of which may panic. The length is checked first, and all that is read lies in the
first 28 bytes, so parsing returns on every byte string, with what `parse` returns.
-/

namespace Capybara

open Wire

namespace TcpMigHeader

variable {buf : Buffer} {start stop : Nat}

/-- An address from its four bytes, and a port. -/
def readSocketAddr (buf : Buffer) (start : Nat) : Checked SocketAddrV4 := do
  let first ← byteAt buf start
  let second ← byteAt buf (start + 1)
  let third ← byteAt buf (start + 2)
  let fourth ← byteAt buf (start + 3)
  let port ← readU16In buf (start + 4) (start + 6)
  .ok ⟨BitVec.ofNat 32 (ofBigEndian [first, second, third, fourth]), port⟩

/-- The last word of `checksum`: the remainder, filled up with zeros. -/
def lastWordOf (data : Buffer) : Checked Buffer :=
  match data.drop (data.length / 2 * 2) with
  | [] => .ok [0, 0]
  | [last] => .ok [last, 0]
  | _ => .error .longRemainder

/-- `checksum`. -/
def checksumOf (ipv4Hdr : Ipv4Header) (migrationHdr data : Buffer) : Checked UInt16 := do
  let last ← lastWordOf data
  let front ← range migrationHdr 0 6
  let back ← range migrationHdr 8 migrationHdr.length
  let covered := words (octets ipv4Hdr.srcAddr) ++ words (octets ipv4Hdr.destAddr) ++
    words front ++ words back ++ words data ++ words last
  .ok (0 - covered.foldl (· + ·) 0)

/-- `parse_from_slice`. The checksum is computed only if one is carried. -/
def parseFromSlice (ipv4Hdr : Ipv4Header) (buf : Buffer) :
    Checked (Except Fail (TcpMigHeader × Buffer)) :=
  if buf.length < TCPMIG_HEADER_SIZE then .ok (.error ⟨.EBADMSG, "TCPMig segment too small"⟩)
  else do
    let magicBytes ← range buf 8 12
    let magic ← readU32 magicBytes
    if magic ≠ MAGIC_NUMBER then return .error ⟨.EBADMSG, "not a TCPMig segment"⟩
    let hdrBuf ← range buf 0 TCPMIG_HEADER_SIZE
    let sourceUdpPort ← readU16In hdrBuf 0 2
    let destUdpPort ← readU16In hdrBuf 2 4
    let length ← readU16In hdrBuf 4 6
    let sum ← readU16In hdrBuf 6 8
    let origin ← readSocketAddr hdrBuf 12
    let client ← readSocketAddr hdrBuf 18
    let fragmentOffset ← readU16In hdrBuf 24 26
    let flags ← byteAt hdrBuf 26
    let flagLoad := flags &&& 1 != 0
    let flagNextFragment := flags &&& 2 != 0
    match MigrationStage.ofU8 ((flags &&& 0xF0) >>> 4) with
    | .error value => return .error ⟨.EBADMSG, "Invalid TCPMig stage: " ++ toString value⟩
    | .ok stage =>
      let payloadBuf ← range buf TCPMIG_HEADER_SIZE buf.length
      let mismatch ← if sum ≠ 0 then do
          let computed ← checksumOf ipv4Hdr hdrBuf payloadBuf
          pure (sum != computed)
        else pure false
      if mismatch then return .error ⟨.EBADMSG, "TCPMig checksum mismatch"⟩
      return .ok (⟨origin, client, length, fragmentOffset, flagLoad, flagNextFragment, stage,
        sourceUdpPort, destUdpPort⟩, payloadBuf)

/-- `serialize` into a buffer, whatever it held before. -/
def serializeInto (hdr : TcpMigHeader) (buf : Buffer) (ipv4Hdr : Ipv4Header) (data : Buffer) :
    Checked Buffer :=
  if buf.length < TCPMIG_HEADER_SIZE then .error .sliceOutOfRange
  else do
    let sum ← checksumOf ipv4Hdr (hdr.frontBytes ++ [0, 0] ++ hdr.backBytes) data
    .ok (hdr.frontBytes ++ bigEndian 2 sum.toNat ++ hdr.backBytes ++ buf.drop TCPMIG_HEADER_SIZE)

/-! ## Reading inside the buffer -/

/-- The four bytes of an address are those of its number. -/
theorem four_bytes (inside : start + 4 ≤ buf.length) :
    (buf.drop start).take 4 =
      [buf.getD start 0, buf.getD (start + 1) 0, buf.getD (start + 2) 0, buf.getD (start + 3) 0] := by
  apply List.ext_getElem
  · rw [List.length_take, List.length_drop]
    simp only [List.length_cons, List.length_nil]
    omega
  · intro place small small'
    have read {index : Nat} (inside : index < buf.length) : buf[index] = buf.getD index 0 := by
      rw [List.getD_eq_getElem?_getD, List.getElem?_eq_getElem inside]
      rfl
    rw [List.getElem_take, List.getElem_drop]
    match place, small' with
    | 0, _ => exact read (by omega)
    | 1, _ => exact read (by omega)
    | 2, _ => exact read (by omega)
    | 3, _ => exact read (by omega)

/-- An address that lies inside the bytes is read. -/
theorem readSocketAddr_inside (inside : start + 6 ≤ buf.length) :
    readSocketAddr buf start = .ok (readAddrAt buf start) := by
  rw [readSocketAddr, byteAt_inside (by omega), byteAt_inside (by omega), byteAt_inside (by omega),
    byteAt_inside (by omega), readU16In_inside (by omega)]
  rw [readAddrAt, readU32At, four_bytes (by omega)]
  rfl

/-- A remainder of a division by two is filled up. -/
theorem lastWordOf_eq (data : Buffer) : lastWordOf data = .ok (lastWord data) := by
  have short : (data.drop (data.length / 2 * 2)).length < 2 := by
    rw [List.length_drop]
    omega
  unfold lastWordOf lastWord
  match data.drop (data.length / 2 * 2), short with
  | [], _ => rfl
  | [last], _ => rfl

/-- The checksum of a header of the right size is computed. -/
theorem checksumOf_eq (ipv4Hdr : Ipv4Header) {migrationHdr : Buffer}
    (size : migrationHdr.length = TCPMIG_HEADER_SIZE) (data : Buffer) :
    checksumOf ipv4Hdr migrationHdr data = .ok (checksum ipv4Hdr migrationHdr data) := by
  unfold TCPMIG_HEADER_SIZE at size
  rw [checksumOf, lastWordOf_eq, range_inside (by omega) (by omega),
    range_inside (by omega) (Nat.le_refl _)]
  dsimp only [bind, Except.bind]
  rw [List.drop_zero, List.take_of_length_le (l := migrationHdr.drop 8) (by
    rw [List.length_drop])]
  rfl

/-! ## The codec -/

/-- Parsing takes no slice and no index outside of the buffer. -/
theorem parseFromSlice_eq (ipv4Hdr : Ipv4Header) (buf : Buffer) :
    parseFromSlice ipv4Hdr buf = .ok (parse ipv4Hdr buf) := by
  by_cases short : buf.length < TCPMIG_HEADER_SIZE
  · rw [parseFromSlice, parse, if_pos short, if_pos short]
  have long : 28 ≤ buf.length := Nat.le_of_not_lt short
  have size : (buf.take TCPMIG_HEADER_SIZE).length = 28 := List.length_take_of_le long
  have whole : range buf 0 TCPMIG_HEADER_SIZE = .ok (buf.take TCPMIG_HEADER_SIZE) :=
    range_front long
  have magicBytes : range buf 8 12 = .ok ((buf.drop 8).take 4) :=
    range_inside (by decide) (by omega)
  have magic : readU32 ((buf.drop 8).take 4) = .ok (readU32At buf 8) := by
    rw [readU32, range_inside (Nat.zero_le _) (by rw [List.length_take, List.length_drop]; omega)]
    dsimp only [bind, Except.bind]
    rw [List.drop_zero, List.take_take, readU32At]
    rfl
  have behind : range buf TCPMIG_HEADER_SIZE buf.length = .ok (buf.drop TCPMIG_HEADER_SIZE) :=
    range_rest (Nat.le_of_not_lt short)
  have number {start : Nat} (inside : start + 2 ≤ 28) :=
    @readU16In_inside (buf.take TCPMIG_HEADER_SIZE) start (by rwa [size])
  have source := @number 0 (by decide)
  have dest := @number 2 (by decide)
  have length := @number 4 (by decide)
  have sum := @number 6 (by decide)
  have offset := @number 24 (by decide)
  have origin := @readSocketAddr_inside (buf.take TCPMIG_HEADER_SIZE) 12 (by rw [size]; decide)
  have client := @readSocketAddr_inside (buf.take TCPMIG_HEADER_SIZE) 18 (by rw [size]; decide)
  have flags := @byteAt_inside (buf.take TCPMIG_HEADER_SIZE) 26 (by rw [size]; decide)
  have computed := checksumOf_eq ipv4Hdr size (buf.drop TCPMIG_HEADER_SIZE)
  rw [parseFromSlice, parse, if_neg short, if_neg short, magicBytes]
  dsimp only [bind, Except.bind]
  rw [magic]
  dsimp only
  by_cases other : readU32At buf 8 ≠ MAGIC_NUMBER
  · rw [if_pos other, if_pos other]
    rfl
  rw [if_neg other, if_neg other, whole]
  dsimp only
  rw [source, dest, length, sum, origin, client, offset, flags]
  dsimp only
  cases MigrationStage.ofU8 (((buf.take TCPMIG_HEADER_SIZE).getD 26 0 &&& 0xF0) >>> 4) with
  | error value => rfl
  | ok stage =>
    dsimp only
    rw [behind]
    dsimp only
    by_cases carried : readU16At (buf.take TCPMIG_HEADER_SIZE) 6 ≠ 0
    · rw [if_pos carried, computed]
      by_cases different : readU16At (buf.take TCPMIG_HEADER_SIZE) 6 ≠
          checksum ipv4Hdr (buf.take TCPMIG_HEADER_SIZE) (buf.drop TCPMIG_HEADER_SIZE)
      · rw [if_pos ⟨carried, different⟩]
        simp [different, pure, Except.pure]
      · rw [if_neg (fun both => different both.2)]
        simp [not_not.mp different, pure, Except.pure]
    · rw [if_neg carried, if_neg (fun both => carried both.1)]
      rfl

/-- A header is written in front of what is behind it. -/
theorem serializeInto_eq (hdr : TcpMigHeader) (ipv4Hdr : Ipv4Header) (data : Buffer)
    (room : TCPMIG_HEADER_SIZE ≤ buf.length) :
    hdr.serializeInto buf ipv4Hdr data =
      .ok (hdr.serialize ipv4Hdr data ++ buf.drop TCPMIG_HEADER_SIZE) := by
  have size : (hdr.frontBytes ++ [0, 0] ++ hdr.backBytes).length = TCPMIG_HEADER_SIZE := by
    rw [List.length_append, List.length_append, frontBytes_length, backBytes_length]
    rfl
  rw [serializeInto, if_neg (Nat.not_lt_of_le room), checksumOf_eq ipv4Hdr size]
  rfl

/-- A header in front of its payload is parsed, with the addresses it was written with. -/
theorem parse_serialized (hdr : TcpMigHeader) (ipv4Hdr : Ipv4Header) (payload : Buffer) :
    parse ipv4Hdr (hdr.serialize ipv4Hdr payload ++ payload) = .ok (hdr, payload) :=
  TcpMigSegment.parse_own ⟨0, 0, ipv4Hdr, hdr, payload⟩

/-- What is accepted has the magic number, and a stage. -/
theorem parse_accepted {ipv4Hdr : Ipv4Header} {accepted : TcpMigHeader × Buffer}
    (parsed : parse ipv4Hdr buf = .ok accepted) :
    TCPMIG_HEADER_SIZE ≤ buf.length ∧ readU32At buf 8 = MAGIC_NUMBER ∧
      MigrationStage.ofU8 ((buf.getD 26 0 &&& 0xF0) >>> 4) = .ok accepted.1.stage := by
  have nibble : (buf.take TCPMIG_HEADER_SIZE).getD 26 0 = buf.getD 26 0 := getD_take (by decide)
  unfold parse at parsed
  dsimp only at parsed
  rw [nibble] at parsed
  split at parsed
  · cases parsed
  rename_i long
  split at parsed
  · cases parsed
  rename_i magic
  split at parsed
  · cases parsed
  rename_i stage known
  split at parsed
  · cases parsed
  cases parsed
  exact ⟨Nat.le_of_not_lt long, not_not.mp magic, known⟩

/-- The codec of migration headers. Every header is written into any buffer that has room for
it, and parsed to itself and the payload behind it, whatever its checksum is. Parsing any bytes
returns, and accepts them only with the magic number and a nibble that names the stage.

Proof: the header is written as a list of 28 bytes, which the parser takes apart again;
the checksum among them is not verified. Every slice and index of the parser lies inside
the bytes whose length it checks first. -/
theorem header_codec :
    (∀ (hdr : TcpMigHeader) (ipv4Hdr : Ipv4Header) (payload buf : Buffer),
      TCPMIG_HEADER_SIZE ≤ buf.length →
      ∃ bytes, hdr.serializeInto buf ipv4Hdr payload = .ok bytes ∧
        parseFromSlice ipv4Hdr (bytes.take TCPMIG_HEADER_SIZE ++ payload) =
          .ok (.ok (hdr, payload))) ∧
    ∀ (ipv4Hdr : Ipv4Header) (buf : Buffer),
      ∃ outcome, parseFromSlice ipv4Hdr buf = .ok outcome ∧
        ∀ hdr payload, outcome = .ok (hdr, payload) →
          TCPMIG_HEADER_SIZE ≤ buf.length ∧ readU32At buf 8 = MAGIC_NUMBER ∧
            MigrationStage.ofU8 ((buf.getD 26 0 &&& 0xF0) >>> 4) = .ok hdr.stage := by
  constructor
  · intro hdr ipv4Hdr payload buf room
    refine ⟨_, serializeInto_eq hdr ipv4Hdr payload room, ?_⟩
    rw [List.take_left' (hdr.serialize_length ipv4Hdr payload), parseFromSlice_eq, parse_serialized]
  · intro ipv4Hdr buf
    refine ⟨_, parseFromSlice_eq ipv4Hdr buf, ?_⟩
    intro hdr payload accepted
    exact parse_accepted accepted

/-- A header with both flags in front of an odd payload. -/
theorem header_codec_odd :
    ∃ bytes, serializeInto ⟨⟨1, 2⟩, ⟨3, 4⟩, 31, 5, true, true, .connectionState, 6, 7⟩
        (List.replicate 28 255) ⟨8, 9⟩ [10, 11, 12] = .ok bytes ∧
      parseFromSlice ⟨8, 9⟩ (bytes.take TCPMIG_HEADER_SIZE ++ [10, 11, 12]) =
        .ok (.ok (⟨⟨1, 2⟩, ⟨3, 4⟩, 31, 5, true, true, .connectionState, 6, 7⟩, [10, 11, 12])) :=
  header_codec.1 _ _ _ _ (by decide)

end TcpMigHeader

end Capybara
