import Mathlib.Data.List.Induction
import Mathlib.Data.BitVec

/-!
# Writing into a slice and reading from its front

A writer is given the space that is left and returns what it wrote together with
the space it did not use. A reader is given the bytes that are left and returns a
value together with the bytes behind it. Both may fail.

`Writes` and `Reads` say what a writer produces, whatever the space, and what a
reader recovers, whatever follows. Each law is kept by sequencing and by
repetition, so a format is written and read back piece by piece. Nothing here
depends on what is written.
-/

namespace Capybara.Wire

/-! ## Fixed-width numbers, most significant byte first -/

/-- The lowest `width` bytes of a number, most significant first. -/
def bigEndian : Nat → Nat → List UInt8
  | 0, _ => []
  | width + 1, number => bigEndian width (number / 256) ++ [UInt8.ofNat number]

/-- The number with the given bytes, most significant first. -/
def ofBigEndian (bytes : List UInt8) : Nat :=
  bytes.foldl (fun number byte => number * 256 + byte.toNat) 0

/-- A number is written in as many bytes as asked for. -/
@[simp] theorem bigEndian_length (width number : Nat) : (bigEndian width number).length = width := by
  induction width generalizing number with
  | zero => rfl
  | succ width inductionHypothesis => simp [bigEndian, inductionHypothesis]

/-- One more byte is one more digit. -/
theorem ofBigEndian_append (bytes : List UInt8) (byte : UInt8) :
    ofBigEndian (bytes ++ [byte]) = ofBigEndian bytes * 256 + byte.toNat := by
  simp [ofBigEndian]

/-- A number that fits the width is read back. -/
theorem ofBigEndian_bigEndian {width number : Nat} (fits : number < 256 ^ width) :
    ofBigEndian (bigEndian width number) = number := by
  induction width generalizing number with
  | zero => simp_all [bigEndian, ofBigEndian]
  | succ width inductionHypothesis =>
    have shorter : number / 256 < 256 ^ width := by
      rw [Nat.pow_succ] at fits
      omega
    rw [bigEndian, ofBigEndian_append, inductionHypothesis shorter, UInt8.toNat_ofNat']
    omega

/-- The number that some bytes stand for has no more digits than there are bytes. -/
theorem ofBigEndian_lt (bytes : List UInt8) : ofBigEndian bytes < 256 ^ bytes.length := by
  induction bytes using List.reverseRecOn with
  | nil => decide
  | append_singleton bytes byte inductionHypothesis =>
    have small := byte.toNat_lt
    rw [ofBigEndian_append, List.length_append, List.length_singleton, Nat.pow_succ]
    omega

/-- The bytes that a number was read from. -/
theorem bigEndian_ofBigEndian (bytes : List UInt8) :
    bigEndian bytes.length (ofBigEndian bytes) = bytes := by
  induction bytes using List.reverseRecOn with
  | nil => rfl
  | append_singleton bytes byte inductionHypothesis =>
    have small := byte.toNat_lt
    have shorter : (ofBigEndian bytes * 256 + byte.toNat) / 256 = ofBigEndian bytes := by omega
    have last : UInt8.ofNat (ofBigEndian bytes * 256 + byte.toNat) = byte := by
      refine UInt8.toNat_inj.mp ?_
      rw [UInt8.toNat_ofNat']
      omega
    rw [ofBigEndian_append, List.length_append, List.length_singleton, bigEndian, shorter,
      inductionHypothesis, last]

/-! ## Writers -/

variable {ε α β : Type}

/-- Write into the front of a space; return what was written and what is left. -/
def Writer (ε β : Type) : Type := List β → Except ε (List β × List β)

namespace Writer

/-- Copy the given elements to the front. -/
def put (short : ε) (written : List β) : Writer ε β := fun space =>
  if written.length ≤ space.length then .ok (written, space.drop written.length)
  else .error short

/-- Fail without writing. -/
def fail (reason : ε) : Writer ε β := fun _ => .error reason

/-- One writer after the other. -/
def sequence : List (Writer ε β) → Writer ε β
  | [] => fun space => .ok ([], space)
  | first :: others => fun space => do
    let (front, space) ← first space
    let (behind, space) ← sequence others space
    .ok (front ++ behind, space)

/-- The writer fills any space that is large enough with the given elements. -/
def Writes (writer : Writer ε β) (written : List β) : Prop :=
  ∀ space, written.length ≤ space.length →
    writer space = .ok (written, space.drop written.length)

/-- Putting elements writes them. -/
theorem put_writes (short : ε) (written : List β) : (put short written).Writes written := by
  intro space room
  simp [put, room]

/-- A sequence of no writers writes nothing. -/
theorem Writes.nil : (sequence [] : Writer ε β).Writes [] := by
  intro space _
  rfl

/-- What a sequence writes is what its members write, in order. -/
theorem Writes.cons {first : Writer ε β} {others : List (Writer ε β)} {front behind : List β}
    (writesFirst : first.Writes front) (writesOthers : (sequence others).Writes behind) :
    (sequence (first :: others)).Writes (front ++ behind) := by
  intro space room
  have roomFirst : front.length ≤ space.length := by
    simp only [List.length_append] at room
    omega
  have roomOthers : behind.length ≤ (space.drop front.length).length := by
    simp only [List.length_append, List.length_drop] at room ⊢
    omega
  simp only [sequence, writesFirst space roomFirst, bind, Except.bind,
    writesOthers _ roomOthers, List.drop_drop, List.length_append]

/-- One sequence after the other. -/
theorem Writes.append {writers others : List (Writer ε β)} {front behind : List β}
    (writes : (sequence writers).Writes front) (writesOthers : (sequence others).Writes behind) :
    (sequence (writers ++ others)).Writes (front ++ behind) := by
  have split (space : List β) : sequence (writers ++ others) space = (do
      let (front, space) ← sequence writers space
      let (behind, space) ← sequence others space
      .ok (front ++ behind, space)) := by
    clear writes
    induction writers generalizing space with
    | nil =>
      simp only [List.nil_append, sequence, bind, Except.bind]
      split <;> simp_all
    | cons first writers inductionHypothesis =>
      simp only [List.cons_append, sequence, inductionHypothesis, bind, Except.bind]
      cases first space with
      | error reason => rfl
      | ok wrote =>
        dsimp only
        cases sequence writers wrote.2 with
        | error reason => rfl
        | ok wrote' =>
          dsimp only
          cases sequence others wrote'.2 with
          | error reason => rfl
          | ok _ => simp only [List.append_assoc]
  intro space room
  rw [List.length_append] at room
  have roomOthers : behind.length ≤ (space.drop front.length).length := by
    rw [List.length_drop]
    omega
  simp only [split, writes space (by omega), writesOthers _ roomOthers, bind, Except.bind,
    List.drop_drop, List.length_append]

/-- Copies one after the other. -/
theorem sequence_puts (short : ε) (parts : List (List β)) :
    (sequence (parts.map fun part => put short part)).Writes parts.flatten := by
  induction parts with
  | nil => exact .nil
  | cons part parts inductionHypothesis => exact (put_writes short part).cons inductionHypothesis

/-- A sequence that succeeded wrote each of its members into some space. -/
theorem sequence_ok {writers : List (Writer ε β)} {space : List β} {result : List β × List β}
    (wrote : sequence writers space = .ok result) :
    ∀ writer ∈ writers, ∃ before after, writer before = .ok after := by
  induction writers generalizing space result with
  | nil => simp
  | cons first others inductionHypothesis =>
    intro writer member
    simp only [sequence, bind, Except.bind] at wrote
    split at wrote
    · cases wrote
    rename_i after wroteFirst
    split at wrote
    · cases wrote
    rename_i wroteOthers
    obtain rfl | member := List.mem_cons.mp member
    · exact ⟨space, after, wroteFirst⟩
    · exact inductionHypothesis wroteOthers writer member

/-- Whenever the writer fails it is for one of the given reasons. -/
def FailsOnly (writer : Writer ε β) (known : ε → Prop) : Prop :=
  ∀ space reason, writer space = .error reason → known reason

/-- Putting elements fails for lack of space and for no other reason. -/
theorem put_failsOnly {short : ε} {known : ε → Prop} (expected : known short) (written : List β) :
    (put short written).FailsOnly known := by
  intro space reason failed
  unfold put at failed
  split at failed
  · cases failed
  · cases failed
    exact expected

/-- A failure has its own reason. -/
theorem fail_failsOnly {reason : ε} {known : ε → Prop} (expected : known reason) :
    (fail reason : Writer ε β).FailsOnly known := by
  intro space other failed
  cases failed
  exact expected

/-- A sequence fails where one of its members does. -/
theorem sequence_failsOnly {writers : List (Writer ε β)} {known : ε → Prop}
    (each : ∀ writer ∈ writers, writer.FailsOnly known) : (sequence writers).FailsOnly known := by
  induction writers with
  | nil =>
    intro space reason failed
    cases failed
  | cons first others inductionHypothesis =>
    have behind := inductionHypothesis fun writer member => each writer (List.mem_cons_of_mem _ member)
    intro space reason failed
    simp only [sequence, bind, Except.bind] at failed
    split at failed
    · rename_i failedFirst
      cases failed
      exact each first List.mem_cons_self space _ failedFirst
    · split at failed
      · rename_i failedOthers
        cases failed
        exact behind _ _ failedOthers
      · cases failed

end Writer

/-! ## Readers -/

/-- Read from the front of some elements; return the value and the elements behind it. -/
abbrev Reader (ε β α : Type) : Type := StateT (List β) (Except ε) α

namespace Reader

/-- The first elements. -/
def take (short : ε) (count : Nat) : Reader ε β (List β) := fun elements =>
  if count ≤ elements.length then .ok (elements.take count, elements.drop count)
  else .error short

/-- The same reader a number of times. -/
def times : Nat → Reader ε β α → Reader ε β (List α)
  | 0, _ => pure []
  | count + 1, reader => do
    let first ← reader
    let others ← times count reader
    pure (first :: others)

/-- The reader recovers the value from the given elements, whatever follows. -/
def Reads (reader : Reader ε β α) (elements : List β) (value : α) : Prop :=
  ∀ rest, reader.run (elements ++ rest) = .ok (value, rest)

/-- Taking as many elements as are in front takes these. -/
theorem take_reads (short : ε) (elements : List β) :
    (take short elements.length).Reads elements elements := by
  intro rest
  simp [StateT.run, take]

/-- A value is read without any element. -/
theorem Reads.pure (value : α) : (pure value : Reader ε β α).Reads [] value := fun _ => rfl

/-- One reader after the other reads one part after the other. -/
theorem Reads.bind {γ : Type} {first : Reader ε β α} {next : α → Reader ε β γ}
    {front behind : List β} {value : α} {result : γ} (reads : first.Reads front value)
    (readsNext : (next value).Reads behind result) :
    (first >>= next).Reads (front ++ behind) result := by
  intro rest
  rw [List.append_assoc, StateT.run_bind, reads]
  exact readsNext rest

/-- What is read is passed on to a reader that reads no more. -/
theorem Reads.andThen {γ : Type} {reader : Reader ε β α} {elements : List β} {value : α}
    {next : α → Reader ε β γ} {result : γ} (reads : reader.Reads elements value)
    (finish : next value = Pure.pure result) : (reader >>= next).Reads elements result := by
  have both : (reader >>= next).Reads (elements ++ []) result := by
    refine reads.bind ?_
    rw [finish]
    exact .pure result
  rwa [List.append_nil] at both

/-- Whenever the reader fails it is for one of the given reasons. -/
def FailsOnly (reader : Reader ε β α) (known : ε → Prop) : Prop :=
  ∀ elements reason, reader.run elements = .error reason → known reason

/-- Taking elements fails if there are too few and for no other reason. -/
theorem take_failsOnly {short : ε} {known : ε → Prop} (expected : known short) (count : Nat) :
    (take short count : Reader ε β (List β)).FailsOnly known := by
  intro elements reason failed
  simp only [StateT.run, take] at failed
  split at failed
  · cases failed
  · cases failed
    exact expected

/-- A value does not fail. -/
theorem FailsOnly.pure {known : ε → Prop} (value : α) :
    (pure value : Reader ε β α).FailsOnly known := by
  intro elements reason failed
  cases failed

/-- A sequence fails where one of its parts does. -/
theorem FailsOnly.bind {γ : Type} {known : ε → Prop} {first : Reader ε β α}
    {next : α → Reader ε β γ} (failsFirst : first.FailsOnly known)
    (failsNext : ∀ value, (next value).FailsOnly known) : (first >>= next).FailsOnly known := by
  intro elements reason failed
  rw [StateT.run_bind] at failed
  cases read : first.run elements with
  | error earlier =>
    rw [read] at failed
    cases failed
    exact failsFirst elements _ read
  | ok result =>
    rw [read] at failed
    exact failsNext result.1 result.2 reason failed

/-- Reading several times fails for the reasons of reading once, by induction on the number of
times. -/
theorem FailsOnly.times {known : ε → Prop} {reader : Reader ε β α} (fails : reader.FailsOnly known)
    (count : Nat) : (times count reader).FailsOnly known := by
  induction count with
  | zero => exact .pure []
  | succ count inductionHypothesis =>
    exact fails.bind fun first => inductionHypothesis.bind fun others => .pure (first :: others)

/-- Whatever the reader returns, and the number of elements that it used up, are related as
given. -/
def Yields (reader : Reader ε β α) (post : α → Nat → Prop) : Prop :=
  ∀ elements value rest, reader.run elements = .ok (value, rest) →
    ∃ used, used + rest.length = elements.length ∧ post value used

/-- A value uses up no elements. -/
theorem Yields.pure {post : α → Nat → Prop} {value : α} (holds : post value 0) :
    (pure value : Reader ε β α).Yields post := by
  intro elements result rest read
  cases read
  exact ⟨0, Nat.zero_add _, holds⟩

/-- What a sequence uses up is what its parts do. -/
theorem Yields.bind {γ : Type} {first : Reader ε β α} {next : α → Reader ε β γ}
    {post : α → Nat → Prop} {post' : γ → Nat → Prop} (yields : first.Yields post)
    (further : ∀ value used, post value used →
      (next value).Yields fun result used' => post' result (used + used')) :
    (first >>= next).Yields post' := by
  intro elements result rest read
  rw [StateT.run_bind] at read
  cases readFirst : first.run elements with
  | error reason =>
    rw [readFirst] at read
    cases read
  | ok reached =>
    rw [readFirst] at read
    obtain ⟨used, total, holds⟩ := yields elements reached.1 reached.2 readFirst
    obtain ⟨used', total', holds'⟩ := further reached.1 used holds reached.2 result rest read
    exact ⟨used + used', by omega, holds'⟩

/-- Taking elements uses up just these. -/
theorem take_yields (short : ε) (count : Nat) :
    (take short count : Reader ε β (List β)).Yields fun taken used =>
      taken.length = count ∧ used = count := by
  intro elements value rest read
  simp only [StateT.run, take] at read
  split at read
  · rename_i enough
    cases read
    refine ⟨count, ?_, ?_, rfl⟩
    · rw [List.length_drop]
      omega
    · rw [List.length_take]
      omega
  · cases read

/-- Repeated reading of as many elements each time. -/
theorem Yields.times {reader : Reader ε β α} {size : Nat}
    (yields : reader.Yields fun _ used => used = size) (count : Nat) :
    (times count reader).Yields fun values used => values.length = count ∧ used = count * size := by
  induction count with
  | zero => exact .pure ⟨rfl, (Nat.zero_mul size).symm⟩
  | succ count inductionHypothesis =>
    refine yields.bind fun first used usedFirst => inductionHypothesis.bind ?_
    rintro others used' ⟨length, usedOthers⟩
    refine .pure ⟨?_, ?_⟩
    · rw [List.length_cons, length]
    · rw [Nat.succ_mul]
      omega

/-- Whatever the reader returns was read from elements that are related to it as given. -/
def Consumes (reader : Reader ε β α) (post : α → List β → Prop) : Prop :=
  ∀ elements value rest, reader.run elements = .ok (value, rest) →
    ∃ front, elements = front ++ rest ∧ post value front

/-- A value consumes no elements. -/
theorem Consumes.pure {post : α → List β → Prop} {value : α} (holds : post value []) :
    (pure value : Reader ε β α).Consumes post := by
  intro elements result rest read
  cases read
  exact ⟨[], rfl, holds⟩

/-- What a sequence reads is what its parts read, in order. -/
theorem Consumes.bind {γ : Type} {first : Reader ε β α} {next : α → Reader ε β γ}
    {post : α → List β → Prop} {post' : γ → List β → Prop} (consumes : first.Consumes post)
    (further : ∀ value front, post value front →
      (next value).Consumes fun result behind => post' result (front ++ behind)) :
    (first >>= next).Consumes post' := by
  intro elements result rest read
  rw [StateT.run_bind] at read
  cases readFirst : first.run elements with
  | error reason =>
    rw [readFirst] at read
    cases read
  | ok reached =>
    rw [readFirst] at read
    obtain ⟨front, split, holds⟩ := consumes elements reached.1 reached.2 readFirst
    obtain ⟨behind, split', holds'⟩ := further reached.1 front holds reached.2 result rest read
    exact ⟨front ++ behind, by rw [split, split', List.append_assoc], holds'⟩

/-- Taking elements consumes just these. -/
theorem take_consumes (short : ε) (count : Nat) :
    (take short count : Reader ε β (List β)).Consumes fun taken front =>
      taken = front ∧ front.length = count := by
  intro elements value rest read
  simp only [StateT.run, take] at read
  split at read
  · rename_i enough
    cases read
    exact ⟨elements.take count, (List.take_append_drop count elements).symm, rfl,
      List.length_take_of_le enough⟩
  · cases read

/-- Repeated reading of what a format says. -/
theorem Consumes.times {reader : Reader ε β α} {format : α → List β}
    (consumes : reader.Consumes fun value front => front = format value) (count : Nat) :
    (times count reader).Consumes fun values front =>
      values.length = count ∧ front = values.flatMap format := by
  induction count with
  | zero => exact .pure ⟨rfl, rfl⟩
  | succ count inductionHypothesis =>
    refine consumes.bind fun first front readFirst => inductionHypothesis.bind ?_
    rintro others behind ⟨length, readOthers⟩
    refine .pure ⟨?_, ?_⟩
    · rw [List.length_cons, length]
    · rw [readFirst, readOthers, List.append_nil, List.flatMap_cons]

end Reader

/-! ## Writers with their readers -/

/-- The writer fills exactly `size` elements, and from these, whatever follows
them, the reader recovers the value. -/
def Conveys (writer : Writer ε β) (size : Nat) (reader : Reader ε β α) (value : α) : Prop :=
  ∃ written : List β, written.length = size ∧ writer.Writes written ∧ reader.Reads written value

namespace Conveys

/-- Nothing is written where nothing is read. -/
theorem pure {value result : α} (same : value = result) :
    Conveys (.sequence []) 0 (pure value : Reader ε β α) result :=
  ⟨[], rfl, .nil, same ▸ .pure value⟩

/-- Copied elements are read back by their number. -/
theorem put (short : ε) (written : List β) :
    Conveys (.put short written) written.length (.take short written.length) written :=
  ⟨written, rfl, Writer.put_writes short written, Reader.take_reads short written⟩

/-- What is read is passed on to a reader that reads no more. -/
theorem andThen {γ : Type} {writer : Writer ε β} {size : Nat} {reader : Reader ε β α} {value : α}
    {next : α → Reader ε β γ} {result : γ} (conveys : Conveys writer size reader value)
    (finish : next value = Pure.pure result) :
    Conveys writer size (reader >>= next) result := by
  obtain ⟨written, length, writes, reads⟩ := conveys
  exact ⟨written, length, writes, reads.andThen finish⟩

/-- The size may be given in another form. -/
theorem resize {writer : Writer ε β} {size other : Nat} {reader : Reader ε β α} {value : α}
    (conveys : Conveys writer size reader value) (same : size = other) :
    Conveys writer other reader value := same ▸ conveys

/-- A sequence is read back by reading its members in order. -/
theorem bind {γ : Type} {first : Writer ε β} {others : List (Writer ε β)} {size further : Nat}
    {reader : Reader ε β α} {next : α → Reader ε β γ} {value : α} {result : γ}
    (conveys : Conveys first size reader value)
    (conveysOthers : Conveys (.sequence others) further (next value) result) :
    Conveys (.sequence (first :: others)) (size + further) (reader >>= next) result := by
  obtain ⟨front, frontLength, writesFirst, readsFirst⟩ := conveys
  obtain ⟨behind, behindLength, writesOthers, readsOthers⟩ := conveysOthers
  refine ⟨front ++ behind, ?_, writesFirst.cons writesOthers, readsFirst.bind readsOthers⟩
  rw [List.length_append, frontLength, behindLength]

/-- A list written element by element is read back element by element. -/
theorem each {γ : Type} {format : γ → Writer ε β} {size : γ → Nat} {reader : Reader ε β α}
    {result : γ → α} {elements : List γ}
    (conveys : ∀ element ∈ elements,
      Conveys (format element) (size element) reader (result element)) :
    Conveys (.sequence (elements.map format)) (elements.map size).sum
      (.times elements.length reader) (elements.map result) := by
  induction elements with
  | nil => exact .pure rfl
  | cons element elements inductionHypothesis =>
    rw [List.map_cons, List.map_cons, List.map_cons, List.sum_cons, List.length_cons]
    have others := inductionHypothesis fun other member => conveys other (List.mem_cons_of_mem _ member)
    exact (conveys element List.mem_cons_self).bind (others.andThen rfl)

end Conveys

end Capybara.Wire
