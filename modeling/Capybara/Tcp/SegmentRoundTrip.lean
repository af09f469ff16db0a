import Capybara.Ip.Datagram
import Capybara.Tcp.SegmentCodec
import Capybara.TcpMig.Datagram

/-!
# TCP headers survive the wire

Each option is written in as many bytes as its size says and is read back from them,
a `NoOperation` as nothing. A header is written into a buffer of its computed size; the
bytes behind its options end them. The checksum does not read the two bytes it is
written to, so the receiver computes the same one.
-/

namespace Capybara

open Wire TcpMigHeader

/-- What the option loop finds of an option. -/
def TcpOptions2.found : TcpOptions2 → TcpHeader.OptionFound
  | .noOperation => .noOperation
  | option => .option option

/-- An option that is written is found as itself, up to the one that does nothing. -/
theorem TcpOptions2.found_of_ne {option : TcpOptions2} (plain : option ≠ .noOperation) :
    option.found = .option option := by
  cases option with
  | noOperation => exact absurd rfl plain
  | maximumSegmentSize | windowScale | selectiveAcknowlegementPermitted | selectiveAcknowlegement |
      timestamp => rfl

/-- A SACK option has one to four blocks. -/
def TcpOptions2.WellFormed : TcpOptions2 → Prop
  | .selectiveAcknowlegement sacks => 1 ≤ sacks.length ∧ sacks.length ≤ 4
  | _ => True

namespace TcpHeader

/-! ## Options -/

/-- A byte is read. -/
theorem readU8_reads (byte : UInt8) : readU8.Reads [byte] byte := fun _ => rfl

/-- A number is read from the bytes that stand for it. -/
theorem readBigEndian_reads {width number : Nat} (fits : number < 256 ^ width) :
    (readBigEndian width).Reads (bigEndian width number) number := by
  have taken := Reader.take_reads ioError (bigEndian width number)
  rw [bigEndian_length] at taken
  exact taken.andThen (congrArg pure (ofBigEndian_bigEndian fits))

/-- A block of selective acknowledgements is read from its bytes. -/
theorem readBlock_reads (block : SelectiveAcknowlegement) : readBlock.Reads block.bytes block := by
  obtain ⟨⟨first⟩, ⟨last⟩⟩ := block
  refine .bind (readBigEndian_reads first.isLt) ((readBigEndian_reads last.isLt).andThen ?_)
  simp only [SeqNumber.ofU32, SeqNumber.toU32, BitVec.ofNat_toNat, BitVec.setWidth_eq]

/-- Several blocks are read one after the other. -/
theorem readBlocks_reads (sacks : List SelectiveAcknowlegement) :
    (Reader.times sacks.length readBlock).Reads (sacks.flatMap SelectiveAcknowlegement.bytes) sacks := by
  induction sacks with
  | nil => exact .pure []
  | cons block sacks inductionHypothesis =>
    exact (readBlock_reads block).bind (inductionHypothesis.andThen rfl)

/-- A block has eight bytes. -/
theorem blocks_length (sacks : List SelectiveAcknowlegement) :
    (sacks.flatMap SelectiveAcknowlegement.bytes).length = 8 * sacks.length := by
  induction sacks with
  | nil => rfl
  | cons block sacks inductionHypothesis =>
    rw [List.flatMap_cons, List.length_append, inductionHypothesis, List.length_cons]
    simp only [SelectiveAcknowlegement.bytes, List.length_append, bigEndian_length]
    omega

/-- An option is written in as many bytes as its size and read back from them. -/
theorem option_conveys {option : TcpOptions2} (formed : option.WellFormed) :
    ∃ written, written.length = option.computeSize ∧ option.serialize.Writes written ∧
      readOption.Reads written option.found := by
  cases option with
  | noOperation => exact ⟨[1], rfl, Wire.Writer.put_writes _ _, fun _ => rfl⟩
  | maximumSegmentSize mss =>
    refine ⟨[2] ++ ([4] ++ bigEndian 2 mss.toNat), by simp [TcpOptions2.computeSize], ?_, ?_⟩
    · exact Wire.Writer.put_writes _ _
    refine .bind (readU8_reads 2) ?_
    change Reader.Reads (readU8 >>= _) _ _
    refine .bind (readU8_reads 4) ?_
    change Reader.Reads (readBigEndian 2 >>= _) _ _
    refine (readBigEndian_reads mss.toNat_lt).andThen ?_
    rw [UInt16.ofNat_toNat]
    rfl
  | windowScale scale => exact ⟨[3, 3, scale], rfl, Wire.Writer.put_writes _ _, fun _ => rfl⟩
  | selectiveAcknowlegementPermitted => exact ⟨[4, 2], rfl, Wire.Writer.put_writes _ _, fun _ => rfl⟩
  | selectiveAcknowlegement sacks =>
    obtain ⟨some_, few⟩ := formed
    refine ⟨[5] ++ ([UInt8.ofNat (2 + 8 * sacks.length)] ++
      sacks.flatMap SelectiveAcknowlegement.bytes), ?_, ?_, ?_⟩
    · simp only [List.length_append, List.length_singleton, blocks_length, TcpOptions2.computeSize]
      omega
    · rw [TcpOptions2.serialize, if_pos few]
      exact Wire.Writer.put_writes _ _
    · refine .bind (readU8_reads 5) ?_
      change Reader.Reads (readU8 >>= _) _ _
      refine .bind (readU8_reads _) ?_
      have sizes : ∀ count : Fin 5, 1 ≤ count.val →
          (UInt8.ofNat (2 + 8 * count.val) = 10 ∨ UInt8.ofNat (2 + 8 * count.val) = 18 ∨
            UInt8.ofNat (2 + 8 * count.val) = 26 ∨ UInt8.ofNat (2 + 8 * count.val) = 34) ∧
          ((UInt8.ofNat (2 + 8 * count.val)).toNat - 2) / 8 = count.val := by
        decide
      obtain ⟨known, counted⟩ := sizes ⟨sacks.length, Nat.lt_succ_of_le few⟩ some_
      dsimp only at known counted
      rw [if_pos known, counted]
      exact (readBlocks_reads sacks).andThen rfl
  | timestamp senderTimestamp echoTimestamp =>
    refine ⟨[8] ++ ([10] ++ (bigEndian 4 senderTimestamp.toNat ++ bigEndian 4 echoTimestamp.toNat)),
      by simp [TcpOptions2.computeSize], ?_, ?_⟩
    · exact Wire.Writer.put_writes _ _
    refine .bind (readU8_reads 8) ?_
    change Reader.Reads (readU8 >>= _) _ _
    refine .bind (readU8_reads 10) ?_
    change Reader.Reads (readBigEndian 4 >>= _) _ _
    refine .bind (readBigEndian_reads senderTimestamp.toNat_lt) ?_
    refine (readBigEndian_reads echoTimestamp.toNat_lt).andThen ?_
    rw [UInt32.ofNat_toNat, UInt32.ofNat_toNat]
    rfl

/-- One round of the option loop. -/
theorem readOptions_step {rounds : Nat} {optionList : List TcpOptions2} {front rest : Buffer}
    {found : OptionFound} (some_ : front ≠ []) : readOption.Reads front found →
    readOptions (rounds + 1) optionList (front ++ rest) =
      match found with
      | .endOfOptions => .ok optionList
      | .noOperation => readOptions rounds optionList rest
      | .option option =>
        if optionList.length ≥ MAX_TCP_OPTIONS then
          .error ⟨.EBADMSG, "too many TCP options provided"⟩
        else readOptions rounds (optionList ++ [option]) rest := by
  intro reads
  have read := reads rest
  cases front with
  | nil => exact absurd rfl some_
  | cons byte front =>
    rw [List.cons_append] at read ⊢
    rw [readOptions, read]
    rfl

/-- The loop finds what was written, in order, and goes on behind it. -/
theorem options_convey {options : List TcpOptions2} (formed : ∀ option ∈ options, option.WellFormed) :
    ∃ written, written.length = (options.map TcpOptions2.computeSize).sum ∧
      (Wire.Writer.sequence (options.map TcpOptions2.serialize)).Writes written ∧
      ∀ rounds optionList rest, optionList.length + options.length ≤ MAX_TCP_OPTIONS →
        written.length + rest.length ≤ rounds → ∃ rounds', rest.length ≤ rounds' ∧
          readOptions rounds optionList (written ++ rest) =
            readOptions rounds' (optionList ++ options.filter (· ≠ .noOperation)) rest := by
  induction options with
  | nil =>
    refine ⟨[], rfl, .nil, fun rounds optionList rest _ enough => ⟨rounds, ?_, ?_⟩⟩
    · rwa [List.length_nil, Nat.zero_add] at enough
    · rw [List.filter_nil, List.append_nil, List.nil_append]
  | cons option options inductionHypothesis =>
    obtain ⟨behind, behindLength, writesBehind, readsBehind⟩ := inductionHypothesis
      fun other member => formed other (List.mem_cons_of_mem _ member)
    obtain ⟨front, frontLength, writesFront, readsFront⟩ := option_conveys
      (formed option List.mem_cons_self)
    have positive : 0 < option.computeSize := by
      cases option <;> simp only [TcpOptions2.computeSize] <;> omega
    have some_ : front ≠ [] := List.ne_nil_of_length_pos (by omega)
    refine ⟨front ++ behind, ?_, writesFront.cons writesBehind, ?_⟩
    · rw [List.length_append, frontLength, behindLength, List.map_cons, List.sum_cons]
    intro rounds optionList rest few enough
    rw [List.length_cons] at few
    rw [List.length_append] at enough
    obtain ⟨rounds, rfl⟩ : ∃ before, rounds = before + 1 := ⟨rounds - 1, by omega⟩
    have room : ¬ optionList.length ≥ MAX_TCP_OPTIONS := by omega
    rw [List.append_assoc, readOptions_step some_ readsFront]
    by_cases plain : option = .noOperation
    · subst plain
      obtain ⟨rounds', enough', read⟩ := readsBehind rounds optionList rest (by omega) (by omega)
      exact ⟨rounds', enough', read⟩
    · obtain ⟨rounds', enough', read⟩ := readsBehind rounds (optionList ++ [option]) rest
        (by rw [List.length_append, List.length_singleton]; omega) (by omega)
      refine ⟨rounds', enough', ?_⟩
      rw [TcpOptions2.found_of_ne plain]
      dsimp only
      rw [if_neg room, read, List.append_assoc, List.filter_cons_of_pos (by simpa using plain),
        List.singleton_append]

/-- The bytes behind the fixed header, without padding. -/
def optionsSize (header : TcpHeader) : Nat :=
  (header.options.map TcpOptions2.computeSize).sum + if header.options ≠ [] then 1 else 0

/-- The options with their end, and any padding behind the end. -/
theorem serializeOptions_conveys {header : TcpHeader}
    (formed : ∀ option ∈ header.options, option.WellFormed)
    (few : header.options.length ≤ MAX_TCP_OPTIONS) :
    ∃ written, written.length = header.optionsSize ∧ header.serializeOptions.Writes written ∧
      ∀ padding : Buffer, (header.options = [] → padding = []) →
        readOptions (written ++ padding).length [] (written ++ padding) =
          .ok (header.options.filter (· ≠ .noOperation)) := by
  obtain ⟨written, length, writes, reads⟩ := options_convey formed
  unfold optionsSize serializeOptions
  by_cases empty : header.options = []
  · rw [if_neg (not_not.mpr empty), if_neg (not_not.mpr empty), List.append_nil]
    refine ⟨written, length, writes, fun padding none => ?_⟩
    obtain ⟨rounds', -, read⟩ := reads (written ++ padding).length [] padding (by simpa using few)
      (Nat.le_of_eq (List.length_append).symm)
    rw [read, none empty]
    cases rounds' <;> rfl
  · rw [if_pos empty, if_pos empty]
    refine ⟨written ++ [0], ?_, ?_, fun padding _ => ?_⟩
    · rw [List.length_append, length, List.length_singleton]
    · refine writes.append ?_
      have ended : (Wire.Writer.sequence [Wire.Writer.put Fault.sliceOutOfRange [(0 : UInt8)]]).Writes ([0] ++ []) :=
        (Wire.Writer.put_writes Fault.sliceOutOfRange [(0 : UInt8)]).cons .nil
      exact ended
    · rw [List.append_assoc]
      obtain ⟨rounds', enough, read⟩ := reads (written ++ ([0] ++ padding)).length [] ([0] ++ padding)
        (by simpa using few) (Nat.le_of_eq (List.length_append).symm)
      rw [read]
      obtain ⟨rounds, rfl⟩ : ∃ before, rounds' = before + 1 := by
        refine ⟨rounds' - 1, ?_⟩
        simp only [List.length_append, List.length_singleton] at enough
        omega
      rfl

end TcpHeader

/-! ## The checksum -/

/-- Everything that is added up is a 16-bit word. -/
theorem checksumWords_small (ipv4Hdr : Ipv4Header) {header data : Buffer}
    (fits : header.length + data.length < 2 ^ 16) :
    ∀ number ∈ checksumWords ipv4Hdr header data, number ≤ 0xFFFF := by
  intro number member
  simp only [checksumWords, List.mem_append, List.mem_map, List.mem_cons, List.not_mem_nil,
    or_false] at member
  obtain (⟨word, -, rfl⟩ | rfl | rfl) | ⟨word, -, rfl⟩ := member
  · exact Nat.le_of_lt_succ word.toNat_lt
  · decide
  · exact Nat.le_trans (Nat.mod_le _ _) (Nat.le_of_lt_succ fits)
  · exact Nat.le_of_lt_succ word.toNat_lt

/-- There are few enough words for a `u32`. -/
theorem checksumWords_few (ipv4Hdr : Ipv4Header) {header data : Buffer}
    (minimal : MIN_TCP_HEADER_SIZE ≤ header.length)
    (fits : header.length + data.length < 2 ^ 16) :
    (checksumWords ipv4Hdr header data).length < 2 ^ 16 := by
  have source := words_length (octets ipv4Hdr.srcAddr)
  have dest := words_length (octets ipv4Hdr.destAddr)
  have front := words_length (header.take 16)
  have urgent := words_length ((header.take MIN_TCP_HEADER_SIZE).drop 18)
  have options := words_length (header.drop MIN_TCP_HEADER_SIZE)
  have body := words_length data
  have last := words_length (lastWord data)
  have padded := lastWord_length data
  simp only [octets, bigEndian_length, List.length_take, List.length_drop,
    MIN_TCP_HEADER_SIZE] at source dest front urgent options minimal
  simp only [checksumWords, List.length_append, List.length_map, List.length_cons,
    List.length_nil, MIN_TCP_HEADER_SIZE, octets]
  omega

/-- The checksum of what fits an IPv4 datagram, which is computed without overflow. -/
theorem tcpChecksum_eq (profile : Profile) (ipv4Hdr : Ipv4Header) {header data : Buffer}
    (minimal : MIN_TCP_HEADER_SIZE ≤ header.length) (even : header.length % 2 = 0)
    (fits : header.length + data.length < 2 ^ 16) :
    tcpChecksum profile ipv4Hdr header data =
      let state := 0xFFFF + (checksumWords ipv4Hdr header data).sum
      .ok (UInt16.ofNat (0xFFFF - foldCarries state state)) := by
  have few := checksumWords_few ipv4Hdr minimal fits
  rw [tcpChecksum, if_neg (Nat.not_lt_of_le minimal), if_neg (fun odd => odd.2 even),
    foldlM_addU32 profile (checksumWords_small ipv4Hdr fits) (by omega)]
  rfl

/-- The checksum of a segment is computed without overflow where its length fits in 16 bits. -/
theorem tcpChecksum_returns (profile : Profile) (ipv4Hdr : Ipv4Header) {header data : Buffer}
    (minimal : MIN_TCP_HEADER_SIZE ≤ header.length) (even : header.length % 2 = 0)
    (fits : header.length + data.length < 2 ^ 16) :
    ∃ checksum, tcpChecksum profile ipv4Hdr header data = .ok checksum :=
  ⟨_, tcpChecksum_eq profile ipv4Hdr minimal even fits⟩

/-- The checksum reads everything but the two bytes in which it is carried. -/
theorem tcpChecksum_carried (profile : Profile) (ipv4Hdr : Ipv4Header) {front back : Buffer}
    (checksum checksum' data : Buffer) (before : front.length = 16) (two : checksum.length = 2)
    (two' : checksum'.length = 2) :
    tcpChecksum profile ipv4Hdr (front ++ checksum ++ back) data =
      tcpChecksum profile ipv4Hdr (front ++ checksum' ++ back) data := by
  have place {sum : Buffer} (size : sum.length = 2) : (front ++ sum).length = 18 := by
    rw [List.length_append, before, size]
  have parts {sum : Buffer} (size : sum.length = 2) : (front ++ sum ++ back).take 16 = front ∧
      ((front ++ sum ++ back).take MIN_TCP_HEADER_SIZE).drop 18 = back.take 2 ∧
      (front ++ sum ++ back).drop MIN_TCP_HEADER_SIZE = back.drop 2 ∧
      (front ++ sum ++ back).length = 18 + back.length := by
    refine ⟨?_, ?_, ?_, ?_⟩
    · rw [List.append_assoc, List.take_left' before]
    · rw [List.drop_take, List.drop_left' (place size)]
      rfl
    · rw [show MIN_TCP_HEADER_SIZE = 18 + 2 from rfl, ← List.drop_drop, List.drop_left' (place size)]
    · rw [List.length_append, place size]
  obtain ⟨front₁, urgent₁, options₁, length₁⟩ := parts two
  obtain ⟨front₂, urgent₂, options₂, length₂⟩ := parts two'
  simp only [tcpChecksum, checksumWords, front₁, urgent₁, options₁, length₁, front₂, urgent₂,
    options₂, length₂]

namespace TcpHeader

/-! ## The fixed header -/

/-- Sixteen bytes stand in front of the checksum. -/
theorem frontBytes_length (header : TcpHeader) : header.frontBytes.length = 16 := by
  simp [frontBytes]

/-- The size is a multiple of four with room for the options. -/
theorem computeSize_bounds (header : TcpHeader) :
    MIN_TCP_HEADER_SIZE + header.optionsSize ≤ header.computeSize ∧
      header.computeSize < MIN_TCP_HEADER_SIZE + header.optionsSize + 4 ∧
      header.computeSize % 4 = 0 := by
  unfold computeSize optionsSize
  dsimp only
  split
  · omega
  · omega

/-- Without options there is no padding. -/
theorem computeSize_plain {header : TcpHeader} (none : header.options = []) :
    header.computeSize = MIN_TCP_HEADER_SIZE + header.optionsSize := by
  simp [computeSize, optionsSize, none, MIN_TCP_HEADER_SIZE]

/-- The data offset and the NS flag can both be read from their byte. -/
theorem offsetByte_eq (header : TcpHeader) (small : header.computeSize ≤ MAX_TCP_HEADER_SIZE) :
    (header.offsetByte >>> 4).toNat * 4 = header.computeSize ∧ flag header.offsetByte 0 = header.ns := by
  have nibble : ∀ (offset : Fin 16) (ns : Bool),
      (((UInt8.ofNat offset.val <<< 4) ||| bit ns 0) >>> 4).toNat = offset.val ∧
        flag ((UInt8.ofNat offset.val <<< 4) ||| bit ns 0) 0 = ns := by
    decide
  unfold MAX_TCP_HEADER_SIZE at small
  obtain ⟨-, -, aligned⟩ := header.computeSize_bounds
  obtain ⟨offset, ns⟩ := nibble ⟨header.computeSize / 4, by omega⟩ header.ns
  refine ⟨?_, ns⟩
  rw [offsetByte, offset]
  dsimp only
  omega

/-- Every flag can be read from the byte. -/
theorem flagsByte_eq (header : TcpHeader) :
    flag header.flagsByte 7 = header.cwr ∧ flag header.flagsByte 6 = header.ece ∧
    flag header.flagsByte 5 = header.urg ∧ flag header.flagsByte 4 = header.ack ∧
    flag header.flagsByte 3 = header.psh ∧ flag header.flagsByte 2 = header.rst ∧
    flag header.flagsByte 1 = header.syn ∧ flag header.flagsByte 0 = header.fin := by
  unfold flagsByte
  generalize header.cwr = cwr
  generalize header.ece = ece
  generalize header.urg = urg
  generalize header.ack = ack
  generalize header.psh = psh
  generalize header.rst = rst
  generalize header.syn = syn
  generalize header.fin = fin
  revert cwr ece urg ack psh rst syn fin
  decide

/-- The fields at the places where they are read. -/
theorem fields_eq (header : TcpHeader) (checksum : UInt16) (behind : Buffer) :
    let bytes := header.frontBytes ++ bigEndian 2 checksum.toNat ++
      (bigEndian 2 header.urgentPointer.toNat ++ behind)
    readU16At bytes 0 = header.srcPort ∧ readU16At bytes 2 = header.dstPort ∧
    readU32At bytes 4 = header.seqNum.toU32 ∧ readU32At bytes 8 = header.ackNum.toU32 ∧
    bytes.getD 12 0 = header.offsetByte ∧ bytes.getD 13 0 = header.flagsByte ∧
    readU16At bytes 14 = header.windowSize ∧ readU16At bytes 16 = checksum ∧
    readU16At bytes 18 = header.urgentPointer := by
  let src := bigEndian 2 header.srcPort.toNat
  let dst := bigEndian 2 header.dstPort.toNat
  let seq := bigEndian 4 header.seqNum.toU32
  let ack := bigEndian 4 header.ackNum.toU32
  let window := bigEndian 2 header.windowSize.toNat
  let sum := bigEndian 2 checksum.toNat
  let urgent := bigEndian 2 header.urgentPointer.toNat
  have source := readU16At_eq [] (dst ++ seq ++ ack ++ [header.offsetByte, header.flagsByte] ++
    window ++ sum ++ urgent ++ behind) header.srcPort
  have dest := readU16At_eq src (seq ++ ack ++ [header.offsetByte, header.flagsByte] ++ window ++
    sum ++ urgent ++ behind) header.dstPort
  have number := readU32At_eq (src ++ dst) (ack ++ [header.offsetByte, header.flagsByte] ++ window ++
    sum ++ urgent ++ behind) header.seqNum.value.isLt
  have acknowledged := readU32At_eq (src ++ dst ++ seq) ([header.offsetByte, header.flagsByte] ++
    window ++ sum ++ urgent ++ behind) header.ackNum.value.isLt
  have advertised := readU16At_eq (src ++ dst ++ seq ++ ack ++ [header.offsetByte, header.flagsByte])
    (sum ++ urgent ++ behind) header.windowSize
  have carried := readU16At_eq (src ++ dst ++ seq ++ ack ++ [header.offsetByte, header.flagsByte] ++
    window) (urgent ++ behind) checksum
  have pointer := readU16At_eq (src ++ dst ++ seq ++ ack ++ [header.offsetByte, header.flagsByte] ++
    window ++ sum) behind header.urgentPointer
  have flags : (src ++ dst ++ seq ++ ack ++ ([header.offsetByte, header.flagsByte] ++ (window ++ sum ++
      urgent ++ behind))).drop 12 = [header.offsetByte, header.flagsByte] ++ (window ++ sum ++
      urgent ++ behind) :=
    List.drop_left' (by simp [src, dst, seq, ack])
  simp only [src, dst, seq, ack, window, sum, urgent, List.append_assoc, List.length_append,
    List.length_nil, bigEndian_length, List.nil_append] at source dest number acknowledged
  simp only [src, dst, seq, ack, window, sum, urgent, List.append_assoc, List.length_append,
    List.length_nil, List.length_cons, bigEndian_length] at advertised carried pointer flags
  have byte (place : Nat) (bytes : Buffer) : bytes.getD (12 + place) 0 = (bytes.drop 12).getD place 0 := by
    simp only [List.getD_eq_getElem?_getD, List.getElem?_drop]
  simp only [frontBytes, List.append_assoc]
  refine ⟨source, dest, number, acknowledged, ?_, ?_, advertised, carried, pointer⟩
  · rw [byte 0, flags]
    rfl
  · rw [byte 1, flags]
    rfl

/-! ## The round trip -/

/-- A header is written into a buffer of its size, whatever the buffer held: the fixed fields
with a checksum in their middle, the options, and zeros behind them. -/
theorem serialize_layout {header : TcpHeader} (formed : ∀ option ∈ header.options, option.WellFormed)
    (few : header.options.length ≤ MAX_TCP_OPTIONS) {buf : Buffer}
    (room : buf.length = header.computeSize) :
    ∃ behind : Buffer,
      (∀ checksum : Buffer, checksum.length = 2 → (header.frontBytes ++ checksum ++
        (bigEndian 2 header.urgentPointer.toNat ++ behind)).length = header.computeSize) ∧
      readOptions behind.length [] behind = .ok (header.options.filter (· ≠ .noOperation)) ∧
      ∀ (profile : Profile) (ipv4Hdr : Ipv4Header) (data : Buffer) (txChecksumOffload : Bool),
        header.serialize profile buf ipv4Hdr data txChecksumOffload = (do
          let checksum ← (if txChecksumOffload then .ok 0
            else tcpChecksum profile ipv4Hdr (header.frontBytes ++ (buf.drop 16).take 2 ++
              (bigEndian 2 header.urgentPointer.toNat ++ behind)) data)
          .ok (header.frontBytes ++ bigEndian 2 checksum.toNat ++
            (bigEndian 2 header.urgentPointer.toNat ++ behind))) := by
  obtain ⟨options, length, writes, reads⟩ := serializeOptions_conveys formed few
  obtain ⟨inside, -, -⟩ := header.computeSize_bounds
  have space : (buf.drop MIN_TCP_HEADER_SIZE).length = header.computeSize - MIN_TCP_HEADER_SIZE := by
    rw [List.length_drop, room]
  have wrote := writes (buf.drop MIN_TCP_HEADER_SIZE) (by omega)
  have remainder : ((buf.drop MIN_TCP_HEADER_SIZE).drop options.length).length =
      header.computeSize - MIN_TCP_HEADER_SIZE - options.length := by
    rw [List.length_drop, space]
  refine ⟨options ++ List.replicate ((buf.drop MIN_TCP_HEADER_SIZE).drop options.length).length 0,
    ?_, ?_, ?_⟩
  · intro checksum two
    simp only [List.length_append, frontBytes_length, two, bigEndian_length, List.length_replicate,
      remainder]
    unfold MIN_TCP_HEADER_SIZE at inside ⊢
    omega
  · refine reads _ fun none => ?_
    have plain := computeSize_plain none
    rw [List.replicate_eq_nil_iff, remainder]
    omega
  · intro profile ipv4Hdr data txChecksumOffload
    have large : ¬ buf.length < MIN_TCP_HEADER_SIZE := by omega
    rw [serialize, if_neg large, wrote]
    simp only [bind, Except.bind, List.append_assoc]

/-- The bytes of a header with the given checksum and the given bytes behind its fixed fields. -/
def layout (header : TcpHeader) (checksum : UInt16) (behind : Buffer) : Buffer :=
  header.frontBytes ++ bigEndian 2 checksum.toNat ++
    (bigEndian 2 header.urgentPointer.toNat ++ behind)

/-- Serialising succeeds for a segment that is not too long for its checksum, and the checksum
that is written is the one that the receiver computes. -/
theorem serialize_eq (profile : Profile) {header : TcpHeader} (ipv4Hdr : Ipv4Header)
    {buf : Buffer} (data : Buffer) (txChecksumOffload : Bool)
    (few : header.options.length ≤ MAX_TCP_OPTIONS)
    (formed : ∀ option ∈ header.options, option.WellFormed)
    (fits : header.computeSize + data.length < 2 ^ 16) (room : buf.length = header.computeSize) :
    ∃ checksum behind,
      header.serialize profile buf ipv4Hdr data txChecksumOffload =
        .ok (header.layout checksum behind) ∧
      (header.layout checksum behind).length = header.computeSize ∧
      readOptions behind.length [] behind = .ok (header.options.filter (· ≠ .noOperation)) ∧
      (txChecksumOffload = false →
        tcpChecksum profile ipv4Hdr (header.layout checksum behind) data = .ok checksum) := by
  obtain ⟨behind, size, reads, written⟩ := serialize_layout formed few room
  obtain ⟨inside, -, aligned⟩ := header.computeSize_bounds
  cases txChecksumOffload with
  | true =>
    exact ⟨0, behind, written profile ipv4Hdr data true, size _ (bigEndian_length _ _), reads,
      fun offloaded => absurd offloaded Bool.noConfusion⟩
  | false =>
    have garbage : ((buf.drop 16).take 2).length = 2 := by
      rw [List.length_take, List.length_drop, room]
      unfold MIN_TCP_HEADER_SIZE at inside
      omega
    obtain ⟨checksum, summed⟩ : ∃ checksum, tcpChecksum profile ipv4Hdr (header.frontBytes ++
        (buf.drop 16).take 2 ++ (bigEndian 2 header.urgentPointer.toNat ++ behind)) data =
          .ok checksum := by
      refine tcpChecksum_returns profile ipv4Hdr ?_ ?_ ?_
      · rw [size _ garbage]
        omega
      · rw [size _ garbage]
        omega
      · rw [size _ garbage]
        exact fits
    refine ⟨checksum, behind, ?_, size _ (bigEndian_length _ _), reads, fun _ => ?_⟩
    · rw [written, if_neg Bool.false_ne_true, summed]
      rfl
    · rw [← summed]
      exact tcpChecksum_carried profile ipv4Hdr _ _ data header.frontBytes_length
        (bigEndian_length _ _) garbage

/-- The byte from which the receiver takes the data offset. -/
theorem layout_offset (header : TcpHeader) (checksum : UInt16) (behind : Buffer) :
    (header.layout checksum behind).getD 12 0 = header.offsetByte := by
  obtain ⟨-, -, -, -, offset, -⟩ := fields_eq header checksum behind
  exact offset

/-- What has been written is parsed back, if the receiver verifies no checksum or the sender
wrote the right one. -/
theorem parse_layout {profile : Profile} {header : TcpHeader} {ipv4Hdr : Ipv4Header}
    {behind data : Buffer} {options : List TcpOptions2} {checksum : UInt16}
    {rxChecksumOffload : Bool} (small : header.computeSize ≤ MAX_TCP_HEADER_SIZE)
    (size : (header.layout checksum behind).length = header.computeSize)
    (reads : readOptions behind.length [] behind = .ok options)
    (sum : rxChecksumOffload = false →
      tcpChecksum profile ipv4Hdr (header.layout checksum behind) data = .ok checksum) :
    parse profile ipv4Hdr (header.layout checksum behind ++ data) rxChecksumOffload =
      .ok (.ok ({ header with options }, data)) := by
  unfold layout at *
  obtain ⟨source, dest, number, acknowledged, offset, flags, window, carried, urgent⟩ :=
    fields_eq header checksum behind
  obtain ⟨cwr, ece, urg, ack, psh, rst, syn, fin⟩ := flagsByte_eq header
  obtain ⟨inside, -, -⟩ := header.computeSize_bounds
  obtain ⟨nibble, ns⟩ := offsetByte_eq header small
  have place : (header.frontBytes ++ bigEndian 2 checksum.toNat ++
      bigEndian 2 header.urgentPointer.toNat).length = MIN_TCP_HEADER_SIZE := by
    simp [frontBytes_length, MIN_TCP_HEADER_SIZE]
  have optionBytes : (header.frontBytes ++ bigEndian 2 checksum.toNat ++
      (bigEndian 2 header.urgentPointer.toNat ++ behind)).drop MIN_TCP_HEADER_SIZE = behind := by
    rw [← List.append_assoc]
    exact List.drop_left' place
  generalize header.frontBytes ++ bigEndian 2 checksum.toNat ++
    (bigEndian 2 header.urgentPointer.toNat ++ behind) = written at *
  have offset' : ((written ++ data).getD 12 0 >>> 4).toNat * 4 = written.length := by
    have here : 12 < written.length := by
      unfold MIN_TCP_HEADER_SIZE at inside
      omega
    rw [List.getD_eq_getElem?_getD, List.getElem?_append_left here, ← List.getD_eq_getElem?_getD,
      offset, nibble, size]
  have rebuilt : ofBytes written options = { header with options } := by
    simp only [ofBytes, source, dest, number, acknowledged, offset, flags, window, urgent, cwr, ece,
      urg, ack, psh, rst, syn, fin, ns, SeqNumber.ofU32, SeqNumber.toU32, BitVec.ofNat_toNat,
      BitVec.setWidth_eq]
  have verified : (if rxChecksumOffload then (.ok true : Checked Bool)
      else do
        let checksum ← tcpChecksum profile ipv4Hdr written data
        .ok (readU16At written 16 == checksum)) = .ok true := by
    cases rxChecksumOffload with
    | true => rfl
    | false =>
      rw [if_neg Bool.false_ne_true, sum rfl, carried]
      exact congrArg Except.ok (beq_self_eq_true checksum)
  rw [parse_eq]
  unfold parseInside
  simp only [offset', List.take_left, List.drop_left, List.length_append, verified, optionBytes,
    reads, rebuilt]
  rw [if_neg (by omega), if_neg (by omega), if_neg (by omega), if_neg (by omega)]
  rfl

/-- The TCP header codec. A header with at most five options, each SACK option with one to four
blocks, whose size is at most sixty bytes and which fits an IPv4 datagram together with the
payload, is written into any buffer of its size. What has been written with its checksum, with
the payload behind it, is parsed to the same header without its `NoOperation` entries and to the
payload.

Proof: `serialize_eq` gives the bytes that are written, field by field, with the options
and their padding behind them, and that the sum with the checksum in its field is that
of a valid segment. `parse_layout` reads any bytes of this layout back. -/
theorem parse_serialize (profile : Profile) (header : TcpHeader) (ipv4Hdr : Ipv4Header)
    (buf data : Buffer) (few : header.options.length ≤ MAX_TCP_OPTIONS)
    (formed : ∀ option ∈ header.options, option.WellFormed)
    (small : header.computeSize ≤ MAX_TCP_HEADER_SIZE)
    (fits : IPV4_HEADER_MIN_SIZE + header.computeSize + data.length ≤ 65535)
    (room : buf.length = header.computeSize) :
    (∃ written, header.serialize profile buf ipv4Hdr data true = .ok written ∧
      written.length = header.computeSize) ∧
    ∃ written, header.serialize profile buf ipv4Hdr data false = .ok written ∧
      written.length = header.computeSize ∧
      parse profile ipv4Hdr (written ++ data) false =
        .ok (.ok ({ header with options := header.options.filter (· ≠ .noOperation) }, data)) := by
  have short : header.computeSize + data.length < 2 ^ 16 := by
    unfold IPV4_HEADER_MIN_SIZE at fits
    omega
  obtain ⟨_, _, offloaded, size, -, -⟩ :=
    serialize_eq profile ipv4Hdr data true few formed short room
  obtain ⟨checksum, behind, written, size', reads, summed⟩ :=
    serialize_eq profile ipv4Hdr data false few formed short room
  exact ⟨⟨_, offloaded, size⟩, _, written, size', parse_layout small size' reads summed⟩

/-- A SYN with an odd payload: five options of all kinds but one, padding, and a garbage buffer. -/
theorem parse_serialize_syn :
    let header : TcpHeader := { TcpHeader.new 80 50000 with
      seqNum := SeqNumber.ofU32 7
      syn := true
      ns := true
      options := [.maximumSegmentSize 1460, .noOperation, .windowScale 7, .timestamp 1 2,
        .selectiveAcknowlegement [⟨SeqNumber.ofU32 1, SeqNumber.ofU32 9⟩]] }
    header.computeSize = 52 ∧
    ∃ written, header.serialize .dev (List.replicate 52 255) ⟨1, 2⟩ [1, 2, 3] false = .ok written ∧
      parse .dev ⟨1, 2⟩ (written ++ [1, 2, 3]) false = .ok (.ok ({ header with
        options := [.maximumSegmentSize 1460, .windowScale 7, .timestamp 1 2,
          .selectiveAcknowlegement [⟨SeqNumber.ofU32 1, SeqNumber.ofU32 9⟩]] }, [1, 2, 3])) := by
  intro header
  have formed : ∀ option ∈ header.options, option.WellFormed := by
    simp [header, TcpOptions2.WellFormed]
  obtain ⟨-, written, serialized, -, parsed⟩ := parse_serialize .dev header ⟨1, 2⟩
    (List.replicate 52 255) [1, 2, 3] (by decide) formed (by decide) (by decide) (by decide)
  exact ⟨by decide, written, serialized, parsed⟩

end TcpHeader

end Capybara
