import Capybara.Tcp.SegmentRoundTrip

/-!
# What the parser accepts

A parsed header has at most five options, none of them a `NoOperation`, and they fit
the at most forty bytes behind the fixed header from which they were read. Parsing what
fits an IPv4 datagram never ends in a fault.

Written again, such a header can be longer than it was: the byte that ends the options
is always written, and rounded up. Options that filled all forty bytes then give a size
of 64, which the four bits of the data offset cannot express. It is the only case in
which what was parsed is not parsed back.
-/

namespace Capybara

open Wire TcpMigHeader

/-- An option as the option loop stores it. -/
def TcpOptions2.Stored (option : TcpOptions2) : Prop := option.WellFormed ∧ option ≠ .noOperation

namespace TcpHeader

/-! ## Options -/

/-- Reading a byte uses up one. -/
theorem readU8_yields : readU8.Yields fun _ used => used = 1 := by
  intro bytes value rest read
  cases bytes with
  | nil => cases read
  | cons byte bytes =>
    cases read
    exact ⟨1, Nat.add_comm 1 _, rfl⟩

/-- Reading a number uses up its bytes. -/
theorem readBigEndian_yields (width : Nat) :
    (readBigEndian width).Yields fun _ used => used = width := by
  refine (Reader.take_yields ioError width).bind ?_
  rintro bytes used ⟨-, rfl⟩
  exact .pure rfl

/-- Reading a block of selective acknowledgements uses up eight bytes. -/
theorem readBlock_yields : readBlock.Yields fun _ used => used = 8 := by
  refine (readBigEndian_yields 4).bind ?_
  rintro first used rfl
  refine (readBigEndian_yields 4).bind ?_
  rintro last used rfl
  exact .pure rfl

/-- A rejection yields nothing. -/
theorem reject_yields {α : Type} (cause : String) (post : α → Nat → Prop) :
    (reject cause : Reader Fail UInt8 α).Yields post := by
  intro bytes value rest read
  cases read

/-- What one round of the loop finds takes up as many bytes as its size says. -/
def Found (found : OptionFound) (used : Nat) : Prop :=
  match found with
  | .option option => option.Stored ∧ used = option.computeSize
  | .endOfOptions | .noOperation => True

/-- Every kind of option is read from its kind, its length and a fixed number of bytes. -/
theorem readOption_yields : readOption.Yields Found := by
  refine readU8_yields.bind ?_
  rintro optionKind used rfl
  split
  · exact .pure trivial
  · exact .pure trivial
  · refine readU8_yields.bind ?_
    rintro optionLength used rfl
    split
    · exact reject_yields _ _
    refine (readBigEndian_yields 2).bind ?_
    rintro mss used rfl
    exact .pure ⟨⟨trivial, TcpOptions2.noConfusion⟩, rfl⟩
  · refine readU8_yields.bind ?_
    rintro optionLength used rfl
    split
    · exact reject_yields _ _
    refine readU8_yields.bind ?_
    rintro windowScale used rfl
    exact .pure ⟨⟨trivial, TcpOptions2.noConfusion⟩, rfl⟩
  · refine readU8_yields.bind ?_
    rintro optionLength used rfl
    split
    · exact reject_yields _ _
    exact .pure ⟨⟨trivial, TcpOptions2.noConfusion⟩, rfl⟩
  · refine readU8_yields.bind ?_
    rintro optionLength used rfl
    split
    · rename_i known
      refine (readBlock_yields.times _).bind ?_
      rintro sacks used ⟨counted, rfl⟩
      have few : 1 ≤ sacks.length ∧ sacks.length ≤ 4 := by
        obtain rfl | rfl | rfl | rfl := known <;> rw [counted] <;> decide
      refine .pure ⟨⟨few, TcpOptions2.noConfusion⟩, ?_⟩
      rw [TcpOptions2.computeSize, counted]
      omega
    · exact reject_yields _ _
  · refine readU8_yields.bind ?_
    rintro optionLength used rfl
    split
    · exact reject_yields _ _
    refine (readBigEndian_yields 4).bind ?_
    rintro senderTimestamp used rfl
    refine (readBigEndian_yields 4).bind ?_
    rintro echoTimestamp used rfl
    exact .pure ⟨⟨trivial, TcpOptions2.noConfusion⟩, rfl⟩
  · exact reject_yields _ _

/-- Options as the loop has stored them, read from no more bytes than given. -/
structure StoredIn (options : List TcpOptions2) (size : Nat) : Prop where
  few : options.length ≤ MAX_TCP_OPTIONS
  stored : ∀ option ∈ options, option.Stored
  inside : (options.map TcpOptions2.computeSize).sum ≤ size

/-- Options that are stored in some bytes are stored in more of them. -/
theorem StoredIn.mono {options : List TcpOptions2} {size size' : Nat} (stored : StoredIn options size)
    (larger : size ≤ size') : StoredIn options size' :=
  { stored with inside := Nat.le_trans stored.inside larger }

/-- One more option, as long as there is a place for it. -/
theorem StoredIn.append {options : List TcpOptions2} {option : TcpOptions2} {size : Nat}
    (storedIn : StoredIn options size) (place : options.length < MAX_TCP_OPTIONS)
    (stored : option.Stored) : StoredIn (options ++ [option]) (size + option.computeSize) where
  few := by
    rw [List.length_append, List.length_singleton]
    exact place
  stored := by
    intro other member
    obtain member | member := List.mem_append.mp member
    · exact storedIn.stored other member
    · rw [List.mem_singleton.mp member]
      exact stored
  inside := by
    rw [List.map_append, List.sum_append, List.map_singleton, List.sum_singleton]
    exact Nat.add_le_add_right storedIn.inside _

/-- The loop stores what it reads from the bytes it is given. -/
theorem readOptions_stored {rounds size : Nat} {optionList options : List TcpOptions2}
    {bytes : Buffer} (storedIn : StoredIn optionList size)
    (read : readOptions rounds optionList bytes = .ok options) :
    StoredIn options (size + bytes.length) := by
  induction rounds generalizing size optionList bytes with
  | zero =>
    have unchanged : optionList = options := by
      cases bytes <;> exact Except.ok.inj read
    exact unchanged ▸ storedIn.mono (Nat.le_add_right _ _)
  | succ rounds inductionHypothesis =>
    cases bytes with
    | nil => exact Except.ok.inj read ▸ storedIn
    | cons byte bytes =>
      rw [readOptions] at read
      cases found : readOption.run (byte :: bytes) with
      | error failure =>
        rw [found] at read
        cases read
      | ok reached =>
        rw [found] at read
        obtain ⟨result, rest⟩ := reached
        obtain ⟨used, total, holds⟩ := readOption_yields _ _ _ found
        cases result with
        | endOfOptions => exact Except.ok.inj read ▸ storedIn.mono (Nat.le_add_right _ _)
        | noOperation => exact (inductionHypothesis storedIn read).mono (by omega)
        | option option =>
          obtain ⟨stored, rfl⟩ := holds
          simp only [bind, Except.bind] at read
          split at read
          · cases read
          rename_i place
          have further := storedIn.append (Nat.not_le.mp place) stored
          exact (inductionHypothesis further read).mono (by omega)

/-! ## Parsing -/

/-- A header as the parser returns it: behind the fixed header there were at most forty bytes. -/
def Parsed (header : TcpHeader) : Prop :=
  StoredIn header.options (MAX_TCP_HEADER_SIZE - MIN_TCP_HEADER_SIZE)

/-- The options of a header have the sizes of its options and the byte that ends them. -/
theorem optionsSize_le (header : TcpHeader) :
    header.optionsSize ≤ (header.options.map TcpOptions2.computeSize).sum + 1 := by
  unfold optionsSize
  split <;> omega

/-- Parsing what fits an IPv4 datagram returns. -/
theorem parse_returns (profile : Profile) (ipv4Hdr : Ipv4Header) {buf : Buffer}
    (fits : buf.length < 2 ^ 16) (rxChecksumOffload : Bool) :
    Returns (parse profile ipv4Hdr buf rxChecksumOffload) := by
  rw [parse_eq]
  unfold parseInside
  dsimp only
  generalize (buf.getD 12 0 >>> 4).toNat = words
  split
  · exact .ok _
  split
  · exact .ok _
  split
  · exact .ok _
  split
  · exact .ok _
  rename_i inside minimal _
  have header : (buf.take (words * 4)).length = words * 4 := by
    rw [List.length_take]
    omega
  have verified : ∃ verified, (if rxChecksumOffload then (.ok true : Checked Bool)
      else do
        let checksum ← tcpChecksum profile ipv4Hdr (buf.take (words * 4)) (buf.drop (words * 4))
        .ok (readU16At (buf.take (words * 4)) 16 == checksum)) = .ok verified := by
    split
    · exact ⟨true, rfl⟩
    obtain ⟨checksum, summed⟩ := @tcpChecksum_returns profile ipv4Hdr (buf.take (words * 4))
      (buf.drop (words * 4)) (by omega) (by omega) (by rw [header, List.length_drop]; omega)
    rw [summed]
    exact ⟨_, rfl⟩
  obtain ⟨verified, known⟩ := verified
  refine Returns.bind known ?_
  cases verified with
  | false => exact .ok _
  | true =>
    cases readOptions ((buf.take (words * 4)).drop MIN_TCP_HEADER_SIZE).length []
        ((buf.take (words * 4)).drop MIN_TCP_HEADER_SIZE) <;> exact .ok _

/-- What the parser returns: options as they are stored, and a segment that is at most four bytes
longer when it is written again. -/
theorem parse_parsed {profile : Profile} {ipv4Hdr : Ipv4Header} {buf data : Buffer}
    {rxChecksumOffload : Bool} {header : TcpHeader}
    (parsed : parse profile ipv4Hdr buf rxChecksumOffload = .ok (.ok (header, data))) :
    header.Parsed ∧ header.computeSize + data.length ≤ buf.length + 4 := by
  rw [parse_eq] at parsed
  unfold parseInside at parsed
  dsimp only at parsed
  generalize (buf.getD 12 0 >>> 4).toNat = words at parsed
  split at parsed
  · cases parsed
  split at parsed
  · cases parsed
  split at parsed
  · cases parsed
  split at parsed
  · cases parsed
  rename_i inside minimal small
  obtain ⟨verified, -, parsed⟩ := bind_ok.mp parsed
  split at parsed
  · cases parsed
  cases read : readOptions ((buf.take (words * 4)).drop MIN_TCP_HEADER_SIZE).length []
      ((buf.take (words * 4)).drop MIN_TCP_HEADER_SIZE) with
  | error failure =>
    rw [read] at parsed
    cases parsed
  | ok options =>
    rw [read] at parsed
    cases parsed
    have nothing : StoredIn [] 0 := ⟨Nat.zero_le _, fun _ member => absurd member List.not_mem_nil,
      Nat.le_refl 0⟩
    have stored := readOptions_stored nothing read
    have room : ((buf.take (words * 4)).drop MIN_TCP_HEADER_SIZE).length =
        words * 4 - MIN_TCP_HEADER_SIZE := by
      rw [List.length_drop, List.length_take]
      omega
    rw [room, Nat.zero_add] at stored
    refine ⟨stored.mono (by omega), ?_⟩
    obtain ⟨-, small', aligned⟩ := (ofBytes (buf.take (words * 4)) options).computeSize_bounds
    have size : (ofBytes (buf.take (words * 4)) options).optionsSize ≤
        words * 4 - MIN_TCP_HEADER_SIZE + 1 :=
      Nat.le_trans (optionsSize_le _) (Nat.succ_le_succ stored.inside)
    rw [List.length_drop]
    omega

/-! ## Parsing again -/

/-- A parsed header has no `NoOperation` to leave out. -/
theorem Parsed.plain {header : TcpHeader} (parsed : header.Parsed) :
    header.options.filter (· ≠ .noOperation) = header.options := by
  refine List.filter_eq_self.mpr fun option member => ?_
  exact decide_eq_true (parsed.stored option member).2

/-- The only size above sixty that a parsed header can have. -/
theorem Parsed.size {header : TcpHeader} (parsed : header.Parsed)
    (large : ¬ header.computeSize ≤ MAX_TCP_HEADER_SIZE) : header.computeSize = 64 := by
  obtain ⟨-, small, aligned⟩ := header.computeSize_bounds
  have inside := parsed.inside
  have size := header.optionsSize_le
  unfold MAX_TCP_HEADER_SIZE MIN_TCP_HEADER_SIZE at *
  omega

/-- Sixteen words do not fit the four bits of the data offset. -/
theorem offsetByte_large {header : TcpHeader} (large : header.computeSize = 64) :
    (header.offsetByte >>> 4).toNat * 4 = 0 := by
  unfold offsetByte
  rw [large]
  cases header.ns <;> rfl

/-- The bytes that a segment is written to are parsed to the same header and data, by a receiver
with the same checksum setting. -/
def ParsedBack (profile : Profile) (header : TcpHeader) (ipv4Hdr : Ipv4Header) (data : Buffer)
    (checksumOffload : Bool) : Prop :=
  ∀ buf : Buffer, buf.length = header.computeSize →
    ∃ written, header.serialize profile buf ipv4Hdr data checksumOffload = .ok written ∧
      parse profile ipv4Hdr (written ++ data) checksumOffload = .ok (.ok (header, data))

/-- A parsed header, whatever ports it has been given since, is parsed back exactly if its size
is at most sixty. -/
theorem Parsed.parsedBack_iff {header : TcpHeader} (parsed : header.Parsed) (profile : Profile)
    (ipv4Hdr : Ipv4Header) {data : Buffer} (checksumOffload : Bool)
    (fits : header.computeSize + data.length < 2 ^ 16) :
    header.ParsedBack profile ipv4Hdr data checksumOffload ↔
      header.computeSize ≤ MAX_TCP_HEADER_SIZE := by
  have formed : ∀ option ∈ header.options, option.WellFormed :=
    fun option member => (parsed.stored option member).1
  constructor
  · intro back
    by_contra large
    have size := parsed.size large
    have room : (List.replicate header.computeSize (0 : UInt8)).length = header.computeSize :=
      List.length_replicate
    obtain ⟨written, serialized, parsedBack⟩ := back _ room
    obtain ⟨checksum, behind, serialized', length, -, -⟩ :=
      serialize_eq profile ipv4Hdr data checksumOffload parsed.few formed fits room
    cases serialized.symm.trans serialized'
    have offset : (((header.layout checksum behind) ++ data).getD 12 0 >>> 4).toNat * 4 = 0 := by
      rw [List.getD_eq_getElem?_getD, List.getElem?_append_left (by omega),
        ← List.getD_eq_getElem?_getD, layout_offset, offsetByte_large size]
    have enough : MIN_TCP_HEADER_SIZE ≤ (header.layout checksum behind ++ data).length := by
      rw [List.length_append, length, size, MIN_TCP_HEADER_SIZE]
      omega
    have refused : parse profile ipv4Hdr (header.layout checksum behind ++ data) checksumOffload =
        .ok (.error ⟨.EBADMSG, "TCP data offset too small"⟩) := by
      rw [parse_eq]
      unfold parseInside
      dsimp only
      rw [offset, if_neg (Nat.not_lt_of_le enough), if_neg (Nat.not_lt_zero _), if_pos (by decide)]
    cases parsedBack.symm.trans refused
  · intro small buf room
    obtain ⟨checksum, behind, serialized, length, reads, summed⟩ :=
      serialize_eq profile ipv4Hdr data checksumOffload parsed.few formed fits room
    rw [parsed.plain] at reads
    exact ⟨_, serialized, parse_layout small length reads summed⟩

end TcpHeader

end Capybara
