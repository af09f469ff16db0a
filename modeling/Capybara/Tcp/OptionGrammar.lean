import Capybara.Tcp.ParsedHeaders

/-!
# The grammar of TCP headers

The bytes behind the fixed header are options and `NoOperation` bytes, up to their end or
to a byte that ends the options, behind which anything may stand. An option is its kind,
its length and its value, in exactly as many bytes as the length says.

With the checksum left to the card, the parser accepts exactly the segments whose data
offset is possible and whose option area is of this form with at most five options, and it
returns these options and the bytes behind the data offset.
-/

namespace Capybara

open Wire TcpMigHeader

/-- The bytes of an option: its kind, its length and its value. -/
def TcpOptions2.wire : TcpOptions2 → Buffer
  | .noOperation => [1]
  | .maximumSegmentSize mss => [2, 4] ++ bigEndian 2 mss.toNat
  | .windowScale scale => [3, 3, scale]
  | .selectiveAcknowlegementPermitted => [4, 2]
  | .selectiveAcknowlegement sacks =>
    [5, UInt8.ofNat (2 + 8 * sacks.length)] ++ sacks.flatMap SelectiveAcknowlegement.bytes
  | .timestamp senderTimestamp echoTimestamp =>
    [8, 10] ++ bigEndian 4 senderTimestamp.toNat ++ bigEndian 4 echoTimestamp.toNat

/-- The bytes of an option area, with the options that they stand for. -/
inductive OptionArea : Buffer → List TcpOptions2 → Prop where
  | ended : OptionArea [] []
  | endOfOptions (ignored : Buffer) : OptionArea (0 :: ignored) []
  | noOperation {rest : Buffer} {options : List TcpOptions2} (behind : OptionArea rest options) :
      OptionArea (1 :: rest) options
  | option {option : TcpOptions2} {rest : Buffer} {options : List TcpOptions2}
      (stored : option.Stored) (behind : OptionArea rest options) :
      OptionArea (option.wire ++ rest) (option :: options)

namespace TcpHeader

/-! ## Reading what stands in the area -/

/-- An option is written as its bytes. -/
theorem serialize_wire {option : TcpOptions2} (formed : option.WellFormed) :
    option.serialize.Writes option.wire := by
  cases option with
  | selectiveAcknowlegement sacks =>
    rw [TcpOptions2.serialize, if_pos formed.2]
    exact Wire.Writer.put_writes _ _
  | noOperation | maximumSegmentSize | windowScale | selectiveAcknowlegementPermitted |
      timestamp => exact Wire.Writer.put_writes _ _

/-- An option is read back from its bytes. -/
theorem readOption_wire {option : TcpOptions2} (stored : option.Stored) :
    readOption.Reads option.wire (.option option) := by
  obtain ⟨written, length, writes, reads⟩ := option_conveys stored.1
  have same : written = option.wire := by
    have expected := serialize_wire stored.1
    have one := writes (List.replicate (written.length + option.wire.length) 0) (by simp)
    have other := expected (List.replicate (written.length + option.wire.length) 0) (by simp)
    rw [one] at other
    exact congrArg Prod.fst (Except.ok.inj other)
  rw [← same, ← TcpOptions2.found_of_ne stored.2]
  exact reads

/-- Reading a byte consumes this byte. -/
theorem readU8_consumes : readU8.Consumes fun byte front => front = [byte] := by
  intro bytes value rest read
  cases bytes with
  | nil => cases read
  | cons byte bytes =>
    cases read
    exact ⟨[_], rfl, rfl⟩

/-- Reading a number consumes the bytes that stand for it. -/
theorem readBigEndian_consumes (width : Nat) : (readBigEndian width).Consumes fun number front =>
    number < 256 ^ width ∧ front = bigEndian width number := by
  refine (Reader.take_consumes ioError width).bind ?_
  rintro bytes front ⟨rfl, length⟩
  refine .pure ⟨?_, ?_⟩
  · rw [← length]
    exact ofBigEndian_lt bytes
  · rw [List.append_nil, ← length, bigEndian_ofBigEndian]

/-- Reading a block of selective acknowledgements consumes its eight bytes. -/
theorem readBlock_consumes :
    readBlock.Consumes fun block front => front = SelectiveAcknowlegement.bytes block := by
  refine (readBigEndian_consumes 4).bind ?_
  rintro first front ⟨small, rfl⟩
  refine (readBigEndian_consumes 4).bind ?_
  rintro last front ⟨small', rfl⟩
  refine .pure ?_
  have number {value : Nat} (fits : value < 256 ^ 4) : (SeqNumber.ofU32 value).toU32 = value := by
    simpa [SeqNumber.ofU32, SeqNumber.toU32] using fits
  rw [SelectiveAcknowlegement.bytes, number small, number small', List.append_nil]

/-- A rejection returns nothing that could be wrong. -/
theorem reject_consumes {α : Type} (cause : String) (post : α → Buffer → Prop) :
    (reject cause : Reader Fail UInt8 α).Consumes post := by
  intro bytes value rest read
  cases read

/-- What one round of the loop finds, with the bytes in which it stands. -/
def FoundIn (found : OptionFound) (front : Buffer) : Prop :=
  match found with
  | .option option => option.Stored ∧ front = option.wire
  | .endOfOptions => front = [0]
  | .noOperation => front = [1]

/-- A kind is known by its number. -/
theorem kind_eq {kind : UInt8} {number : Nat} (known : kind.toNat = number) :
    kind = UInt8.ofNat number := by
  rw [← known, UInt8.ofNat_toNat]

/-- Every kind of option is read from its bytes and from no others. -/
theorem readOption_consumes : readOption.Consumes FoundIn := by
  refine readU8_consumes.bind ?_
  rintro optionKind front rfl
  split
  · rename_i known
    exact .pure (by rw [kind_eq known]; rfl)
  · rename_i known
    exact .pure (by rw [kind_eq known]; rfl)
  · rename_i known
    rw [kind_eq known]
    refine readU8_consumes.bind ?_
    rintro optionLength front rfl
    split
    · exact reject_consumes _ _
    rename_i length
    refine (readBigEndian_consumes 2).bind ?_
    rintro mss front ⟨small, rfl⟩
    refine .pure ⟨⟨trivial, TcpOptions2.noConfusion⟩, ?_⟩
    rw [not_not.mp length, TcpOptions2.wire, UInt16.toNat_ofNat_of_lt' small, List.append_nil]
    rfl
  · rename_i known
    rw [kind_eq known]
    refine readU8_consumes.bind ?_
    rintro optionLength front rfl
    split
    · exact reject_consumes _ _
    rename_i length
    refine readU8_consumes.bind ?_
    rintro windowScale front rfl
    refine .pure ⟨⟨trivial, TcpOptions2.noConfusion⟩, ?_⟩
    rw [not_not.mp length]
    rfl
  · rename_i known
    rw [kind_eq known]
    refine readU8_consumes.bind ?_
    rintro optionLength front rfl
    split
    · exact reject_consumes _ _
    rename_i length
    refine .pure ⟨⟨trivial, TcpOptions2.noConfusion⟩, ?_⟩
    rw [not_not.mp length]
    rfl
  · rename_i known
    rw [kind_eq known]
    refine readU8_consumes.bind ?_
    rintro optionLength front rfl
    split
    · rename_i lengths
      refine (readBlock_consumes.times _).bind ?_
      rintro sacks front ⟨counted, rfl⟩
      have few : (1 ≤ sacks.length ∧ sacks.length ≤ 4) ∧
          optionLength = UInt8.ofNat (2 + 8 * sacks.length) := by
        obtain rfl | rfl | rfl | rfl := lengths <;> rw [counted] <;> decide
      refine .pure ⟨⟨few.1, TcpOptions2.noConfusion⟩, ?_⟩
      rw [TcpOptions2.wire, few.2, List.append_nil]
      rfl
    · exact reject_consumes _ _
  · rename_i known
    rw [kind_eq known]
    refine readU8_consumes.bind ?_
    rintro optionLength front rfl
    split
    · exact reject_consumes _ _
    rename_i length
    refine (readBigEndian_consumes 4).bind ?_
    rintro senderTimestamp front ⟨small, rfl⟩
    refine (readBigEndian_consumes 4).bind ?_
    rintro echoTimestamp front ⟨small', rfl⟩
    refine .pure ⟨⟨trivial, TcpOptions2.noConfusion⟩, ?_⟩
    rw [not_not.mp length, TcpOptions2.wire, UInt32.toNat_ofNat_of_lt' small,
      UInt32.toNat_ofNat_of_lt' small', List.append_nil]
    rfl
  · exact reject_consumes _ _

/-! ## The option loop -/

/-- What is left of an area behind what a round of the loop has found. -/
def AreaBehind (found : OptionFound) (rest : Buffer) (options : List TcpOptions2) : Prop :=
  match found with
  | .endOfOptions => options = []
  | .noOperation => OptionArea rest options
  | .option option => ∃ behind, options = option :: behind ∧ OptionArea rest behind

/-- A round of the loop finds what an area begins with. -/
theorem area_cons {byte : UInt8} {bytes : Buffer} {options : List TcpOptions2} :
    OptionArea (byte :: bytes) options ↔
      ∃ found rest, readOption.run (byte :: bytes) = .ok (found, rest) ∧
        AreaBehind found rest options := by
  constructor
  · intro area
    generalize whole : byte :: bytes = wholeBytes at area
    cases area with
    | ended => cases whole
    | endOfOptions ignored => exact ⟨.endOfOptions, ignored, rfl, rfl⟩
    | @noOperation rest _ behind => exact ⟨.noOperation, rest, rfl, behind⟩
    | @option option rest behind stored area =>
      exact ⟨.option option, rest, readOption_wire stored rest, behind, rfl, area⟩
  · rintro ⟨found, rest, read, holds⟩
    obtain ⟨front, split, foundIn⟩ := readOption_consumes _ _ _ read
    rw [split]
    cases found with
    | endOfOptions =>
      cases holds
      rw [foundIn]
      exact .endOfOptions rest
    | noOperation =>
      rw [foundIn]
      exact .noOperation holds
    | option option =>
      obtain ⟨stored, rfl⟩ := foundIn
      obtain ⟨behind, rfl, area⟩ := holds
      exact .option stored area

/-- A round of the loop uses up a byte at least. -/
theorem readOption_shorter {bytes rest : Buffer} {found : OptionFound}
    (read : readOption.run bytes = .ok (found, rest)) : rest.length < bytes.length := by
  obtain ⟨front, rfl, foundIn⟩ := readOption_consumes _ _ _ read
  have positive : 0 < front.length := by
    cases found with
    | endOfOptions | noOperation =>
      rw [foundIn]
      exact Nat.one_pos
    | option option =>
      rw [foundIn.2]
      cases option <;> exact Nat.succ_pos _
  rw [List.length_append]
  omega

/-- Every option has at least its kind. -/
theorem wire_ne_nil (option : TcpOptions2) : option.wire ≠ [] := by
  cases option <;> exact List.cons_ne_nil _ _

/-- An empty area has no options. -/
theorem area_nil {options : List TcpOptions2} : OptionArea [] options ↔ options = [] := by
  constructor
  · intro area
    generalize whole : ([] : Buffer) = bytes at area
    cases area with
    | ended => rfl
    | endOfOptions | noOperation => cases whole
    | option stored behind => exact absurd (List.append_eq_nil_iff.mp whole.symm).1 (wire_ne_nil _)
  · rintro rfl
    exact .ended

/-- The bytes of an option are as many as the code computes. -/
theorem wire_length (option : TcpOptions2) : option.wire.length = option.computeSize := by
  cases option with
  | selectiveAcknowlegement sacks =>
    rw [TcpOptions2.wire, List.length_append, blocks_length, TcpOptions2.computeSize]
    rfl
  | noOperation | maximumSegmentSize | windowScale | selectiveAcknowlegementPermitted |
      timestamp => simp [TcpOptions2.wire, TcpOptions2.computeSize]

/-- The bytes of options one after the other. -/
theorem wires_length (options : List TcpOptions2) :
    (options.flatMap TcpOptions2.wire).length = (options.map TcpOptions2.computeSize).sum := by
  rw [List.length_flatMap]
  simp only [wire_length]

/-- An area has room for its options, and is nothing but these if it has no more. -/
theorem area_size {bytes : Buffer} {options : List TcpOptions2} (area : OptionArea bytes options) :
    (options.map TcpOptions2.computeSize).sum ≤ bytes.length ∧
      (bytes.length = (options.map TcpOptions2.computeSize).sum →
        bytes = options.flatMap TcpOptions2.wire) := by
  induction area with
  | ended => exact ⟨Nat.le_refl _, fun _ => rfl⟩
  | endOfOptions ignored => exact ⟨Nat.zero_le _, nofun⟩
  | noOperation behind inductionHypothesis =>
    obtain ⟨inside, -⟩ := inductionHypothesis
    rw [List.length_cons]
    exact ⟨by omega, fun full => by omega⟩
  | @option option rest options stored behind inductionHypothesis =>
    obtain ⟨inside, exactly⟩ := inductionHypothesis
    rw [List.length_append, List.map_cons, List.sum_cons, wire_length, List.flatMap_cons]
    exact ⟨by omega, fun full => by rw [← exactly (by omega)]⟩

/-- What follows from a round of the loop about the area. -/
theorem area_of_read {byte : UInt8} {bytes rest : Buffer} {found : OptionFound}
    (read : readOption.run (byte :: bytes) = .ok (found, rest)) {options : List TcpOptions2} :
    OptionArea (byte :: bytes) options ↔ AreaBehind found rest options := by
  rw [area_cons]
  constructor
  · rintro ⟨found', rest', read', holds⟩
    cases read.symm.trans read'
    exact holds
  · intro holds
    exact ⟨found, rest, read, holds⟩

/-- Nothing is left to be read. -/
theorem readOptions_nil (rounds : Nat) (optionList : List TcpOptions2) :
    readOptions rounds optionList [] = .ok optionList := by
  cases rounds <;> rfl

/-- The loop accepts exactly the areas with few enough options, and stores these. -/
theorem readOptions_iff {rounds : Nat} {optionList options : List TcpOptions2} {bytes : Buffer}
    (enough : bytes.length ≤ rounds) (few : optionList.length ≤ MAX_TCP_OPTIONS) :
    readOptions rounds optionList bytes = .ok options ↔
      ∃ found, OptionArea bytes found ∧ options = optionList ++ found ∧
        options.length ≤ MAX_TCP_OPTIONS := by
  induction rounds generalizing optionList bytes with
  | zero =>
    obtain rfl := List.eq_nil_of_length_eq_zero (Nat.le_zero.mp enough)
    rw [readOptions_nil]
    simp only [area_nil, exists_eq_left, List.append_nil, Except.ok.injEq]
    exact ⟨fun same => ⟨same.symm, same ▸ few⟩, fun same => same.1.symm⟩
  | succ rounds inductionHypothesis =>
    cases bytes with
    | nil =>
      rw [readOptions_nil]
      simp only [area_nil, exists_eq_left, List.append_nil, Except.ok.injEq]
      exact ⟨fun same => ⟨same.symm, same ▸ few⟩, fun same => same.1.symm⟩
    | cons byte bytes =>
      rw [readOptions]
      cases read : readOption.run (byte :: bytes) with
      | error failure =>
        refine iff_of_false (by intro wrong; cases wrong) ?_
        rintro ⟨found, area, -⟩
        obtain ⟨_, _, read', -⟩ := area_cons.mp area
        rw [read] at read'
        cases read'
      | ok reached =>
        obtain ⟨found, rest⟩ := reached
        have shorter := readOption_shorter read
        rw [List.length_cons] at shorter enough
        simp only [area_of_read read, AreaBehind, bind, Except.bind]
        cases found with
        | endOfOptions =>
          simp only [exists_eq_left, List.append_nil, Except.ok.injEq]
          exact ⟨fun same => ⟨same.symm, same ▸ few⟩, fun same => same.1.symm⟩
        | noOperation => exact inductionHypothesis (by omega) few
        | option option =>
          dsimp only
          split
          · rename_i full
            refine iff_of_false (by intro wrong; cases wrong) ?_
            rintro ⟨found, ⟨behind, rfl, -⟩, rfl, many⟩
            rw [List.length_append, List.length_cons] at many
            omega
          · rename_i space
            rw [inductionHypothesis (by omega) (by
              rw [List.length_append, List.length_singleton]
              omega)]
            constructor
            · rintro ⟨behind, area, rfl, many⟩
              exact ⟨option :: behind, ⟨behind, rfl, area⟩, by rw [List.append_assoc]; rfl, many⟩
            · rintro ⟨found, ⟨behind, rfl, area⟩, rfl, many⟩
              exact ⟨behind, area, by rw [List.append_assoc]; rfl, many⟩

/-! ## The parser -/

/-- Twice the upper half of byte 12: the data offset in bytes. -/
def dataOffset (buf : Buffer) : Nat := (buf.getD 12 0 >>> 4).toNat * 4

/-- The bytes between the fixed header and the data offset. -/
def optionArea (buf : Buffer) : Buffer := (buf.take (dataOffset buf)).drop MIN_TCP_HEADER_SIZE

/-- The option loop over the option area. -/
theorem readOptions_area {buf : Buffer} {options : List TcpOptions2} :
    readOptions (optionArea buf).length [] (optionArea buf) = .ok options ↔
      OptionArea (optionArea buf) options ∧ options.length ≤ MAX_TCP_OPTIONS := by
  rw [readOptions_iff (Nat.le_refl _) (Nat.zero_le _)]
  constructor
  · rintro ⟨found, area, rfl, few⟩
    exact ⟨area, few⟩
  · rintro ⟨area, few⟩
    exact ⟨options, area, rfl, few⟩

/-- The data offset is possible for a segment. -/
structure PossibleOffset (buf : Buffer) : Prop where
  minimal : MIN_TCP_HEADER_SIZE ≤ buf.length
  aboveHeader : MIN_TCP_HEADER_SIZE ≤ dataOffset buf
  belowMaximum : dataOffset buf ≤ MAX_TCP_HEADER_SIZE
  inside : dataOffset buf ≤ buf.length

/-- A segment whose data offset is impossible is refused. -/
theorem parse_impossible (profile : Profile) (ipv4Hdr : Ipv4Header) {buf : Buffer}
    (rxChecksumOffload : Bool) (impossible : ¬ PossibleOffset buf) :
    ∃ failure, parse profile ipv4Hdr buf rxChecksumOffload = .ok (.error failure) := by
  rw [parse_eq]
  unfold parseInside
  dsimp only
  split
  · exact ⟨_, rfl⟩
  rename_i minimal
  split
  · exact ⟨_, rfl⟩
  rename_i inside
  split
  · exact ⟨_, rfl⟩
  rename_i aboveHeader
  split
  · exact ⟨_, rfl⟩
  rename_i belowMaximum
  exact absurd ⟨Nat.le_of_not_lt minimal, Nat.le_of_not_lt aboveHeader,
    Nat.le_of_not_lt belowMaximum, Nat.le_of_not_lt inside⟩ impossible

/-- What the parser does with a possible data offset: it verifies the checksum and reads the
options. -/
def parseArea (profile : Profile) (ipv4Hdr : Ipv4Header) (buf : Buffer)
    (rxChecksumOffload : Bool) : Checked (Except Fail (TcpHeader × Buffer)) := do
  let hdrBuf := buf.take (dataOffset buf)
  let data := buf.drop (dataOffset buf)
  let verified ← (
    if rxChecksumOffload then .ok true
    else do
      let checksum ← tcpChecksum profile ipv4Hdr hdrBuf data
      .ok (readU16At hdrBuf 16 == checksum))
  if !verified then .ok (.error ⟨.EBADMSG, "TCP checksum mismatch"⟩)
  else match readOptions (optionArea buf).length [] (optionArea buf) with
    | .error failure => .ok (.error failure)
    | .ok options => .ok (.ok (ofBytes hdrBuf options, data))

/-- With a data offset that is possible the parser goes on with the area of the options. -/
theorem parse_possible (profile : Profile) (ipv4Hdr : Ipv4Header) {buf : Buffer}
    (rxChecksumOffload : Bool) (possible : PossibleOffset buf) :
    parse profile ipv4Hdr buf rxChecksumOffload =
      parseArea profile ipv4Hdr buf rxChecksumOffload := by
  rw [parse_eq]
  change (if buf.length < MIN_TCP_HEADER_SIZE then _ else if buf.length < dataOffset buf then _
    else if dataOffset buf < MIN_TCP_HEADER_SIZE then _
    else if dataOffset buf > MAX_TCP_HEADER_SIZE then _ else _) = _
  rw [if_neg (Nat.not_lt_of_le possible.minimal), if_neg (Nat.not_lt_of_le possible.inside),
    if_neg (Nat.not_lt_of_le possible.aboveHeader), if_neg (Nat.not_lt_of_le possible.belowMaximum)]
  rfl

/-- With the checksum left to the card, a segment whose data offset is possible is accepted if
its options are. -/
theorem parseArea_offloaded (profile : Profile) (ipv4Hdr : Ipv4Header) (buf : Buffer) :
    parseArea profile ipv4Hdr buf true =
      match readOptions (optionArea buf).length [] (optionArea buf) with
      | .error failure => .ok (.error failure)
      | .ok options => .ok (.ok (ofBytes (buf.take (dataOffset buf)) options,
          buf.drop (dataOffset buf))) := rfl

/-- A segment with a possible data offset and the given options in front of it. -/
structure Grammatical (buf : Buffer) (options : List TcpOptions2) : Prop
    extends PossibleOffset buf where
  area : OptionArea (optionArea buf) options
  few : options.length ≤ MAX_TCP_OPTIONS

/-- What the parser returns with the checksum left to the card. -/
theorem parse_offloaded_iff {profile : Profile} {ipv4Hdr : Ipv4Header} {buf data : Buffer}
    {header : TcpHeader} : parse profile ipv4Hdr buf true = .ok (.ok (header, data)) ↔
      Grammatical buf header.options ∧ header = ofBytes (buf.take (dataOffset buf)) header.options ∧
        data = buf.drop (dataOffset buf) := by
  by_cases possible : PossibleOffset buf
  · rw [parse_possible profile ipv4Hdr true possible, parseArea_offloaded]
    constructor
    · intro parsed
      cases read : readOptions (optionArea buf).length [] (optionArea buf) with
      | error failure =>
        rw [read] at parsed
        cases parsed
      | ok options =>
        rw [read] at parsed
        cases parsed
        obtain ⟨area, few⟩ := readOptions_area.mp read
        exact ⟨⟨possible, area, few⟩, rfl, rfl⟩
    · rintro ⟨grammatical, same, rfl⟩
      rw [readOptions_area.mpr ⟨grammatical.area, grammatical.few⟩]
      dsimp only
      rw [← same]
  · obtain ⟨failure, refused⟩ := parse_impossible profile ipv4Hdr true possible
    rw [refused]
    exact iff_of_false nofun fun grammatical => possible grammatical.1.toPossibleOffset

/-- A segment whose checksum is right is accepted without a look at it, too. -/
theorem parse_unverified {profile : Profile} {ipv4Hdr : Ipv4Header} {buf : Buffer}
    {rxChecksumOffload : Bool} {accepted : TcpHeader × Buffer}
    (parsed : parse profile ipv4Hdr buf rxChecksumOffload = .ok (.ok accepted)) :
    parse profile ipv4Hdr buf true = .ok (.ok accepted) := by
  by_cases possible : PossibleOffset buf
  · rw [parse_possible profile ipv4Hdr rxChecksumOffload possible] at parsed
    rw [parse_possible profile ipv4Hdr true possible, parseArea_offloaded]
    obtain ⟨verified, -, parsed⟩ := bind_ok.mp parsed
    cases verified with
    | false => cases parsed
    | true => exact parsed
  · obtain ⟨failure, refused⟩ := parse_impossible profile ipv4Hdr rxChecksumOffload possible
    rw [refused] at parsed
    cases parsed

/-- With the checksum left to the card, the parser returns for every segment. It accepts
exactly the grammatical ones, and returns their options, the fields of the fixed header and
the bytes behind the data offset.

Proof: the guards on the length and the data offset come before every fixed read. Behind
them `readOptions` is compared with the grammar, by induction on the area of the
options, one production for each branch of the loop. -/
theorem parse_accepts_iff (profile : Profile) (ipv4Hdr : Ipv4Header) (buf : Buffer) :
    (∃ outcome, parse profile ipv4Hdr buf true = .ok outcome) ∧
    ((∃ accepted, parse profile ipv4Hdr buf true = .ok (.ok accepted)) ↔
      ∃ options, Grammatical buf options) ∧
    ∀ header data, parse profile ipv4Hdr buf true = .ok (.ok (header, data)) →
      Grammatical buf header.options ∧ header = ofBytes (buf.take (dataOffset buf)) header.options ∧
        data = buf.drop (dataOffset buf) := by
  refine ⟨?_, ?_, fun header data => parse_offloaded_iff.mp⟩
  · by_cases possible : PossibleOffset buf
    · rw [parse_possible profile ipv4Hdr true possible, parseArea_offloaded]
      cases readOptions (optionArea buf).length [] (optionArea buf) with
      | error failure => exact ⟨_, rfl⟩
      | ok options => exact ⟨_, rfl⟩
    · obtain ⟨failure, refused⟩ := parse_impossible profile ipv4Hdr true possible
      exact ⟨_, refused⟩
  · constructor
    · rintro ⟨⟨header, data⟩, accepted⟩
      exact ⟨header.options, (parse_offloaded_iff.mp accepted).1⟩
    · rintro ⟨options, grammatical⟩
      exact ⟨(ofBytes (buf.take (dataOffset buf)) options, buf.drop (dataOffset buf)),
        parse_offloaded_iff.mpr ⟨grammatical, rfl, rfl⟩⟩

end TcpHeader

end Capybara
