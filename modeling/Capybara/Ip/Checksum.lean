import Capybara.Lib.InternetChecksum
import Capybara.TcpMig.Header

/-!
# Adding up words in a `u32`

The checksums of IPv4, TCP and UDP start from `0xFFFF`, add 16-bit words without carries, and
take off `0xFFFF` while the state is above it. A few words cannot overflow a `u32`, and what
is left of a sum that is not zero is the one's complement sum.
-/

namespace Capybara

open Wire TcpMigHeader InternetChecksum

/-- The loop at the end of a checksum. Every round takes off `0xffff`, so a number of
rounds that is not below the state is enough. -/
def foldCarries : (rounds : Nat) → (state : Nat) → Nat
  | 0, state => state
  | rounds + 1, state => if state > 0xFFFF then foldCarries rounds (state - 0xFFFF) else state

/-- What the loop at the end leaves. -/
theorem foldCarries_spec {rounds state : Nat} (enough : state ≤ rounds) (positive : 0 < state) :
    foldCarries rounds state ≤ 0xFFFF ∧ 0 < foldCarries rounds state ∧
      foldCarries rounds state % 0xFFFF = state % 0xFFFF := by
  induction rounds generalizing state with
  | zero => omega
  | succ rounds inductionHypothesis =>
    rw [foldCarries]
    split
    · rename_i above
      obtain ⟨below, positive, congruent⟩ := @inductionHypothesis (state - 0xFFFF) (by omega)
        (by omega)
      exact ⟨below, positive, by rw [congruent]; omega⟩
    · exact ⟨by omega, positive, rfl⟩

/-- Reduced at the end, a plain sum that is not zero is the one's complement sum. -/
theorem foldCarries_sum {words : List Nat} (small : ∀ word ∈ words, word ≤ 0xFFFF)
    (positive : words.sum ≠ 0) :
    foldCarries (0xFFFF + words.sum) (0xFFFF + words.sum) = onesSum words := by
  obtain ⟨below, some, congruent⟩ := @foldCarries_spec _ (0xFFFF + words.sum) (Nat.le_refl _)
    (by omega)
  refine onesSum_unique small below ?_ (iff_of_false (by omega) positive)
  rw [congruent, Nat.add_mod_left]

/-- The complement of what is left of a sum that is not zero has a bit that is not set. -/
theorem complement_ne {state : Nat} (positive : 0 < state) :
    UInt16.ofNat (0xFFFF - foldCarries state state) ≠ 0xFFFF := by
  obtain ⟨-, some, -⟩ := foldCarries_spec (Nat.le_refl state) positive
  intro same
  have number := congrArg UInt16.toNat same
  rw [UInt16.toNat_ofNat_of_lt' (by
    rw [UInt16.size]
    omega)] at number
  change 0xFFFF - foldCarries state state = 0xFFFF at number
  omega

/-- A sum of few words fits a `u32`. -/
theorem foldlM_addU32 (profile : Profile) {numbers : List Nat} {start : Nat}
    (small : ∀ number ∈ numbers, number ≤ 0xFFFF)
    (fits : start + 0xFFFF * numbers.length < 2 ^ 32) :
    numbers.foldlM (addU32 profile) start = .ok (start + numbers.sum) := by
  induction numbers generalizing start with
  | nil => rfl
  | cons number numbers inductionHypothesis =>
    have here := small number List.mem_cons_self
    rw [List.length_cons, Nat.mul_add, Nat.mul_one] at fits
    rw [List.foldlM_cons, addU32_of_lt profile (by omega), List.sum_cons, ← Nat.add_assoc]
    exact inductionHypothesis (fun other member => small other (List.mem_cons_of_mem _ member))
      (by omega)

/-- Adding up in a `u32` and reducing at the end gives the Internet checksum. -/
theorem summed_internet (profile : Profile) {numbers : List Nat} {covered : Buffer}
    (small : ∀ number ∈ numbers, number ≤ 0xFFFF) (few : numbers.length < 2 ^ 16)
    (same : numbers.sum = (paddedWords covered).sum) (positive : (paddedWords covered).sum ≠ 0) :
    (do
      let state ← numbers.foldlM (addU32 profile) 0xFFFF
      .ok (UInt16.ofNat (0xFFFF - foldCarries state state)) : Checked UInt16) =
      .ok (UInt16.ofNat (bytesChecksum covered)) := by
  rw [foldlM_addU32 profile small (by omega), same]
  dsimp only [bind, Except.bind]
  rw [foldCarries_sum (paddedWords_small _) positive]
  rfl

/-! ## Bytes as words -/

/-- There are at most half as many words as bytes. -/
theorem words_length (bytes : Buffer) : 2 * (words bytes).length ≤ bytes.length := by
  induction bytes using words.induct with
  | case1 high low rest inductionHypothesis =>
    rw [words, List.length_cons, List.length_cons, List.length_cons]
    omega
  | case2 bytes short =>
    rw [words]
    · exact Nat.zero_le _
    · exact short

/-- The last word has two bytes, a zero among them if there was only one. -/
theorem lastWord_length (data : Buffer) : (lastWord data).length = 2 := by
  unfold lastWord
  split <;> rfl

/-- Two bytes are a number of 16 bits. -/
theorem ofBigEndian_pair (high low : UInt8) :
    ofBigEndian [high, low] = high.toNat * 256 + low.toNat := by
  simp [ofBigEndian]

/-- A number in two bytes is one word. -/
theorem paddedWords_bigEndian {number : Nat} (fits : number < 2 ^ 16) :
    paddedWords (bigEndian 2 number) = [number] := by
  have pair : bigEndian 2 number = [UInt8.ofNat (number / 256), UInt8.ofNat number] := rfl
  rw [pair, paddedWords, ← ofBigEndian_pair, ← pair, ofBigEndian_bigEndian fits]
  rfl

/-- The first word is the number of the first two bytes. -/
theorem words_toNat {high low : UInt8} {rest : Buffer} :
    (words (high :: low :: rest)).map UInt16.toNat =
      (high.toNat * 256 + low.toNat) :: (words rest).map UInt16.toNat := by
  have first := high.toNat_lt
  have second := low.toNat_lt
  rw [words, List.map_cons, ofBigEndian_pair, UInt16.toNat_ofNat_of_lt' (by
    rw [UInt16.size]
    omega)]

/-- Bytes in pairs are read as the words that they are. -/
theorem words_even {bytes : Buffer} (even : bytes.length % 2 = 0) :
    (words bytes).map UInt16.toNat = paddedWords bytes := by
  induction bytes using paddedWords.induct with
  | case1 high low rest inductionHypothesis =>
    rw [List.length_cons, List.length_cons] at even
    rw [words_toNat, paddedWords, inductionHypothesis (by omega)]
  | case2 last => cases even
  | case3 => rfl

/-- The data, with the last word filled up, adds up to its words. -/
theorem words_data (data : Buffer) :
    ((words data ++ words (lastWord data)).map UInt16.toNat).sum = (paddedWords data).sum := by
  rw [List.map_append, List.sum_append]
  induction data using paddedWords.induct with
  | case1 high low rest inductionHypothesis =>
    have last : lastWord (high :: low :: rest) = lastWord rest := by
      unfold lastWord
      have half : (high :: low :: rest).length / 2 * 2 = rest.length / 2 * 2 + 2 := by
        rw [List.length_cons, List.length_cons]
        omega
      rw [half]
      rfl
    rw [words_toNat, last, paddedWords, List.sum_cons, List.sum_cons, Nat.add_assoc,
      inductionHypothesis]
  | case2 last =>
    have filled : lastWord [last] = [last, 0] := by simp [lastWord]
    rw [filled, words_toNat]
    simp [words, paddedWords]
  | case3 => rfl

end Capybara
