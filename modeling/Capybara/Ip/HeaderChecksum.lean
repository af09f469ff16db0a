import Capybara.Ip.DatagramRoundTrip

/-!
# What the checksum of an IPv4 header covers

The checksum of a header is valid if the one's complement sum of all its words, the options
and the checksum included, is `0xFFFF`. `compute_checksum` is given the whole header but reads
nine words of it, so the options are not covered.

As the version is one of the words that are read, their sum is not zero, and both checks are
about sums modulo `0xFFFF`. The two agree where the options add up to a multiple of it, and
else on the headers that fail both.
-/

namespace Capybara

open Wire TcpMigHeader InternetChecksum

namespace Ipv4DatagramHeader

variable {profile : Profile} {buf : Buffer} {protocol : IpProtocol}

/-- The datagram is accepted. -/
def Accepts (profile : Profile) (buf : Buffer) : Prop :=
  ∃ accepted, parse profile buf = .ok (.ok accepted)

/-- The one's complement sum of all words of the header has all bits set. -/
def ValidChecksum (buf : Buffer) : Prop := onesSum (paddedWords (buf.take (hdrSize buf))) = 0xFFFF

instance (buf : Buffer) : Decidable (ValidChecksum buf) := inferInstanceAs (Decidable (_ = _))

/-- The sum of the words of the options. -/
def optionsSum (buf : Buffer) : Nat := (paddedWords ((buf.take (hdrSize buf)).drop 20)).sum

/-- The sum of the ten words before the options. -/
def fixedSum (buf : Buffer) : Nat := (checksumWords buf).sum + (readU16At buf 10).toNat

/-- The options add nothing, or the checksum is wrong with them and without them. A checksum
of `0xFFFF` is refused, so it has to be wrong. -/
def OptionsHarmless (buf : Buffer) : Prop :=
  if readU16At buf 10 = 0xFFFF then (fixedSum buf + optionsSum buf) % 0xFFFF ≠ 0
  else optionsSum buf % 0xFFFF = 0 ∨
    fixedSum buf % 0xFFFF ≠ 0 ∧ (fixedSum buf + optionsSum buf) % 0xFFFF ≠ 0

instance (buf : Buffer) : Decidable (OptionsHarmless buf) :=
  inferInstanceAs (Decidable (ite (readU16At buf 10 = 0xFFFF) _ _))

instance (buf : Buffer) (protocol : IpProtocol) : Decidable (Supported buf protocol) :=
  decidable_of_iff
    ((ofBytes buf protocol).version = IPV4_VERSION ∧ IPV4_HEADER_MIN_SIZE ≤ hdrSize buf ∧
      hdrSize buf ≤ (ofBytes buf protocol).totalLength.toNat ∧
      (ofBytes buf protocol).totalLength.toNat ≤ buf.length ∧
      (ofBytes buf protocol).flags &&& IPV4_CTRL_FLAG_EVIL = 0 ∧
      (ofBytes buf protocol).flags &&& IPV4_CTRL_FLAG_MF = 0 ∧
      (ofBytes buf protocol).fragmentOffset = 0 ∧ (ofBytes buf protocol).ttl ≠ 0 ∧
      IpProtocol.tryFrom (buf.getD 9 0) = .ok protocol)
    ⟨fun ⟨version, minimal, longer, inside, good, last, first, alive, known⟩ =>
      ⟨version, minimal, longer, inside, good, last, first, alive, known⟩,
    fun ⟨version, minimal, longer, inside, good, last, first, alive, known⟩ =>
      ⟨version, minimal, longer, inside, good, last, first, alive, known⟩⟩

/-! ## The words of a header -/

/-- The words that are read, the checksum and the options are all words of the header. -/
theorem header_sum (minimal : IPV4_HEADER_MIN_SIZE ≤ hdrSize buf) (inside : hdrSize buf ≤ buf.length) :
    (paddedWords (buf.take (hdrSize buf))).sum = fixedSum buf + optionsSum buf := by
  unfold IPV4_HEADER_MIN_SIZE at minimal
  have parts : buf.take (hdrSize buf) = buf.take 10 ++ (buf.drop 10).take 2 ++
      (buf.take 20).drop 12 ++ (buf.take (hdrSize buf)).drop 20 := by
    have front : buf.take 10 ++ (buf.drop 10).take 2 = buf.take 12 := by
      rw [← List.take_add]
    have fixed : buf.take 12 ++ (buf.take 20).drop 12 = buf.take 20 := by
      have whole := List.take_append_drop 12 (buf.take 20)
      rwa [List.take_take, Nat.min_eq_left (by omega)] at whole
    have whole := List.take_append_drop 20 (buf.take (hdrSize buf))
    rw [List.take_take, Nat.min_eq_left minimal] at whole
    rw [front, fixed, whole]
  have sumBytes := @bytes_readU16At buf 10 (by omega)
  have frontSize : (buf.take 10).length = 10 := List.length_take_of_le (by omega)
  have sumSize : ((buf.drop 10).take 2).length = 2 := by
    rw [List.length_take, List.length_drop]
    omega
  have backSize : ((buf.take 20).drop 12).length = 8 := by
    rw [List.length_drop, List.length_take]
    omega
  rw [parts, paddedWords_append (by
      simp only [List.length_append, frontSize, sumSize, backSize]), paddedWords_append (by
      simp only [List.length_append, frontSize, sumSize]), paddedWords_append (by rw [frontSize]),
    sumBytes, paddedWords_bigEndian (readU16At buf 10).toNat_lt, ← words_even (by rw [frontSize]), ← words_even (by rw [backSize])]
  unfold fixedSum checksumWords optionsSum
  simp only [List.map_append, List.sum_append, List.sum_singleton]
  omega

/-- The version is one of the words that are read. -/
theorem checksumWords_positive (long : 20 ≤ buf.length) (version : buf.getD 0 0 >>> 4 = IPV4_VERSION) :
    (checksumWords buf).sum ≠ 0 := by
  match buf, long with
  | first :: second :: rest, long =>
    intro zero
    have member : first.toNat * 256 + second.toNat ∈ checksumWords (first :: second :: rest) := by
      unfold checksumWords
      rw [List.take_succ_cons, List.take_succ_cons, List.map_append, words_toNat]
      exact List.mem_append_left _ List.mem_cons_self
    have none := List.sum_eq_zero_iff_forall_eq_nat.mp zero _ member
    have empty : first = 0 := UInt8.toNat_inj.mp (by
      change first.toNat = 0
      omega)
    rw [empty] at version
    have different : (0 : UInt8) >>> 4 ≠ IPV4_VERSION := by decide
    exact different version

/-! ## The two checks -/

/-- Which checksum a header carries if it is the one computed. -/
theorem carries_iff (positive : (checksumWords buf).sum ≠ 0) :
    readU16At buf 10 = computed buf ↔ readU16At buf 10 ≠ 0xFFFF ∧ fixedSum buf % 0xFFFF = 0 := by
  have below := onesSum_le (checksumWords_small buf)
  have congruent := onesSum_mod (checksumWords buf)
  have zero := onesSum_eq_zero (checksumWords buf)
  have small := (readU16At buf 10).toNat_lt
  have number : (computed buf).toNat = 0xFFFF - onesSum (checksumWords buf) := by
    unfold computed
    dsimp only
    rw [foldCarries_sum (checksumWords_small buf) positive, UInt16.toNat_ofNat_of_lt' (by
      rw [UInt16.size]
      omega)]
  have full : readU16At buf 10 = 0xFFFF ↔ (readU16At buf 10).toNat = 0xFFFF := UInt16.toNat_inj.symm
  rw [← UInt16.toNat_inj, number, Ne, full, fixedSum]
  omega

/-- What is accepted of the datagrams that pass the other checks. -/
theorem accepts_iff (profile : Profile) (supported : Supported buf protocol) :
    Accepts profile buf ↔ readU16At buf 10 ≠ 0xFFFF ∧ fixedSum buf % 0xFFFF = 0 := by
  have minimal := supported.minimal
  have long : 20 ≤ buf.length :=
    (minimal.trans supported.longer).trans supported.inside
  rw [← carries_iff (checksumWords_positive long supported.version)]
  constructor
  · rintro ⟨accepted, parsed⟩
    obtain ⟨-, -, right, -⟩ := (parse_ok_iff profile buf accepted).mp parsed
    exact right
  · intro right
    exact ⟨_, (parse_ok_iff profile buf _).mpr ⟨protocol, supported, right, rfl⟩⟩

/-- Which of them have a valid checksum. -/
theorem validChecksum_iff (supported : Supported buf protocol) :
    ValidChecksum buf ↔ (fixedSum buf + optionsSum buf) % 0xFFFF = 0 := by
  have minimal := supported.minimal
  have inside := supported.longer.trans supported.inside
  have positive := checksumWords_positive (minimal.trans inside) supported.version
  rw [ValidChecksum, onesSum_full_iff (paddedWords_small _), header_sum minimal inside, fixedSum]
  omega

/-- The header checksum. A datagram that passes the other checks is accepted exactly if its
checksum is valid, if and only if its options are harmless.

Proof: among the other checks the datagram is accepted if the fixed header alone sums to
a multiple of `0xFFFF` and its checksum is not the refused value, while validity asks
for the sum with the options. `OptionsHarmless` compares the two, by the refused value. -/
theorem accepts_valid_iff (profile : Profile) (supported : Supported buf protocol) :
    (Accepts profile buf ↔ ValidChecksum buf) ↔ OptionsHarmless buf := by
  rw [accepts_iff profile supported, validChecksum_iff supported, OptionsHarmless]
  split
  · rename_i refused
    simp [refused]
  · rename_i other
    simp only [ne_eq, other, not_false_eq_true, true_and]
    omega

/-- Four bytes of options that add nothing: a valid checksum is accepted, and one that is
off by one is refused. -/
theorem accepts_valid_options :
    let datagram (checksum : UInt8) : Buffer :=
      [0x46, 0, 0, 24, 0, 0, 0x40, 0, 255, 0x11, 0x7A, checksum, 0, 0, 0, 1, 0, 0, 0, 2, 0, 0, 0, 0]
    ValidChecksum (datagram 0xD2) ∧ Accepts .dev (datagram 0xD2) ∧ ¬ Accepts .dev (datagram 0xD3) := by
  intro datagram
  have valid : ValidChecksum (datagram 0xD2) := by decide
  have agree := (@accepts_valid_iff (datagram 0xD2) .udp .dev (by decide)).mpr (by decide)
  have agree' := (@accepts_valid_iff (datagram 0xD3) .udp .dev (by decide)).mpr (by decide)
  exact ⟨valid, agree.mpr valid, mt agree'.mp (by decide)⟩

/-- A datagram with four bytes of options, whose checksum is valid. -/
def optionsDatagram : Buffer :=
  [0x46, 0, 0, 24, 0, 0, 0x40, 0, 255, 0x11, 0x78, 0xD0, 0, 0, 0, 1, 0, 0, 0, 2, 1, 1, 1, 1]

/-- It is refused. -/
theorem not_accepts_valid :
    ¬ ∀ (profile : Profile) (buf : Buffer) (protocol : IpProtocol), Supported buf protocol →
      readU16At buf 10 ≠ 0xFFFF → (Accepts profile buf ↔ ValidChecksum buf) := by
  intro claimed
  have supported : Supported optionsDatagram .udp := by decide
  have valid : ValidChecksum optionsDatagram := by decide
  have accepted := (claimed .dev _ _ supported (by decide)).mpr valid
  exact absurd ((accepts_iff .dev supported).mp accepted).2 (by decide)

end Ipv4DatagramHeader

end Capybara
