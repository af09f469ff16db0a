import Mathlib.Data.List.Basic
import Mathlib.Algebra.BigOperators.Group.List.Basic
import Mathlib.Algebra.Ring.Nat

/-!
# The Internet checksum

The one's complement sum of 16-bit words adds the carry out of the high end back in at the
low end. The checksum of some words is the complement of their sum; bytes are paired to
words, most significant first, and a last byte without a partner is filled up with a zero.

The sum is the remainder of the plain sum modulo `0xFFFF`, except that the class of zero has
two members: the sum is zero only if every word is. This determines it, so a program may
add up without carries and reduce at the end. It also says which changes go unnoticed.
-/

namespace InternetChecksum

/-- The addition with end-around carry. -/
def onesAdd (sum word : Nat) : Nat := (sum + word) % 0x10000 + (sum + word) / 0x10000

/-- The one's complement sum. -/
def onesSum (words : List Nat) : Nat := words.foldl onesAdd 0

/-- The complement of the one's complement sum. -/
def checksum (words : List Nat) : Nat := 0xFFFF - onesSum words

/-- The words of some bytes, the last one filled up with a zero. -/
def paddedWords : List UInt8 → List Nat
  | high :: low :: rest => (high.toNat * 256 + low.toNat) :: paddedWords rest
  | [last] => [last.toNat * 256]
  | [] => []

/-- The checksum of some bytes. -/
def bytesChecksum (bytes : List UInt8) : Nat := checksum (paddedWords bytes)

/-! ## The sum -/

variable {sum word : Nat} {words words' : List Nat}

/-- A sum with the carry added back has 16 bits. -/
theorem onesAdd_le (small : sum ≤ 0xFFFF) (small' : word ≤ 0xFFFF) : onesAdd sum word ≤ 0xFFFF := by
  unfold onesAdd
  omega

/-- The carry is worth one, so that the sum is right modulo 2^16 - 1. -/
theorem onesAdd_mod (sum word : Nat) : onesAdd sum word % 0xFFFF = (sum + word) % 0xFFFF := by
  unfold onesAdd
  omega

/-- A sum is zero only of zeros. -/
theorem onesAdd_eq_zero : onesAdd sum word = 0 ↔ sum = 0 ∧ word = 0 := by
  unfold onesAdd
  omega

/-- Adding words to a sum of 16 bits leaves one, by induction on the words. -/
theorem foldl_onesAdd_le (small : ∀ word ∈ words, word ≤ 0xFFFF) (start : sum ≤ 0xFFFF) :
    words.foldl onesAdd sum ≤ 0xFFFF := by
  induction words generalizing sum with
  | nil => exact start
  | cons word words inductionHypothesis =>
    exact inductionHypothesis (fun other member => small other (List.mem_cons_of_mem _ member))
      (onesAdd_le start (small word List.mem_cons_self))

/-- Adding words with carries is right modulo 2^16 - 1. -/
theorem foldl_onesAdd_mod (words : List Nat) (sum : Nat) :
    words.foldl onesAdd sum % 0xFFFF = (sum + words.sum) % 0xFFFF := by
  induction words generalizing sum with
  | nil => rfl
  | cons word words inductionHypothesis =>
    have step := onesAdd_mod sum word
    rw [List.foldl_cons, inductionHypothesis, List.sum_cons]
    omega

/-- Adding words with carries yields zero only of zeros. -/
theorem foldl_onesAdd_eq_zero (words : List Nat) (sum : Nat) :
    words.foldl onesAdd sum = 0 ↔ sum + words.sum = 0 := by
  induction words generalizing sum with
  | nil => rfl
  | cons word words inductionHypothesis =>
    have step := @onesAdd_eq_zero sum word
    rw [List.foldl_cons, inductionHypothesis, List.sum_cons]
    omega

/-- The sum of words with carries has 16 bits. -/
theorem onesSum_le (small : ∀ word ∈ words, word ≤ 0xFFFF) : onesSum words ≤ 0xFFFF :=
  foldl_onesAdd_le small (Nat.zero_le _)

/-- It is the sum without carries modulo 2^16 - 1. -/
theorem onesSum_mod (words : List Nat) : onesSum words % 0xFFFF = words.sum % 0xFFFF := by
  rw [onesSum, foldl_onesAdd_mod, Nat.zero_add]

/-- It is zero exactly if all words are. -/
theorem onesSum_eq_zero (words : List Nat) : onesSum words = 0 ↔ words.sum = 0 := by
  rw [onesSum, foldl_onesAdd_eq_zero, Nat.zero_add]

/-- What is known of the sum determines it. -/
theorem onesSum_unique (small : ∀ word ∈ words, word ≤ 0xFFFF) {reduced : Nat}
    (below : reduced ≤ 0xFFFF) (congruent : reduced % 0xFFFF = words.sum % 0xFFFF)
    (zero : reduced = 0 ↔ words.sum = 0) : reduced = onesSum words := by
  have below' := onesSum_le small
  have congruent' := onesSum_mod words
  have zero' := onesSum_eq_zero words
  omega

/-- The sum has all bits set if not every word is zero and the plain sum is a multiple of
`0xFFFF`. -/
theorem onesSum_full_iff (small : ∀ word ∈ words, word ≤ 0xFFFF) :
    onesSum words = 0xFFFF ↔ words.sum ≠ 0 ∧ words.sum % 0xFFFF = 0 := by
  have below := onesSum_le small
  have congruent := onesSum_mod words
  have zero := onesSum_eq_zero words
  omega

/-! ## Changes that are noticed -/

/-- Two lists of words differ in one word, and not by a multiple of `0xFFFF`. -/
def OneWordDiffers (words words' : List Nat) : Prop :=
  ∃ before old new after, words = before ++ old :: after ∧ words' = before ++ new :: after ∧
    old % 0xFFFF ≠ new % 0xFFFF

/-- The checksum of words that differ so is different. -/
theorem checksum_ne (small : ∀ word ∈ words, word ≤ 0xFFFF) (small' : ∀ word ∈ words', word ≤ 0xFFFF)
    (differs : OneWordDiffers words words') : checksum words ≠ checksum words' := by
  obtain ⟨before, old, new, after, rfl, rfl, different⟩ := differs
  have below := onesSum_le small
  have below' := onesSum_le small'
  have congruent := onesSum_mod (before ++ old :: after)
  have congruent' := onesSum_mod (before ++ new :: after)
  rw [List.sum_append, List.sum_cons] at congruent congruent'
  unfold checksum
  omega

/-! ## Bytes as words -/

variable {bytes : List UInt8}

/-- Two bytes make a word of 16 bits, and so does a last one with a zero. -/
theorem paddedWords_small (bytes : List UInt8) : ∀ word ∈ paddedWords bytes, word ≤ 0xFFFF := by
  induction bytes using paddedWords.induct with
  | case1 high low rest inductionHypothesis =>
    have first := high.toNat_lt
    have second := low.toNat_lt
    intro word member
    rw [paddedWords] at member
    obtain rfl | later := List.mem_cons.mp member
    · omega
    · exact inductionHypothesis word later
  | case2 last =>
    have first := last.toNat_lt
    intro word member
    rw [List.mem_singleton.mp member]
    omega
  | case3 =>
    intro word member
    cases member

/-- Bytes in pairs are words of their own. -/
theorem paddedWords_append {front : List UInt8} (even : front.length % 2 = 0)
    (behind : List UInt8) :
    paddedWords (front ++ behind) = paddedWords front ++ paddedWords behind := by
  induction front using paddedWords.induct with
  | case1 high low rest inductionHypothesis =>
    rw [List.length_cons, List.length_cons] at even
    rw [List.cons_append, List.cons_append, paddedWords, paddedWords,
      inductionHypothesis (by omega), List.cons_append]
  | case2 last => cases even
  | case3 => rfl

/-- A checksum has 16 bits. -/
theorem bytesChecksum_le (bytes : List UInt8) : bytesChecksum bytes ≤ 0xFFFF := Nat.sub_le _ _

end InternetChecksum
