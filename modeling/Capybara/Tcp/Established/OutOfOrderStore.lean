import Capybara.Tcp.Established.Reception

/-!
# Insertion into the out-of-order store

Two specifications of `store_out_of_order_segment`. For every layout of the
store, sorted or not, the insertion loop never fails, keeps entries non-empty
and only ever stores parts of what was offered, each at its own position. This
is `inserted_parts`, and all that the contents of the received stream rest on.

For a store that is sorted and free of overlap, and a new segment that overlaps
no entry partially, the loop does what it is meant to: `inserted_clean`. With a
partial overlap it does not. When the end of an entry overlaps, one byte too
few is cut, because the end of an entry is inclusive; when the front of an entry
overlaps, the trimmed segment is appended behind it.
-/

namespace Capybara

namespace OutOfOrder

/-- A new segment whose end agrees with its start and its bytes. -/
structure Whole (segment : NewSegment) : Prop where
  occupied : 0 < segment.buf.length
  short : segment.buf.length ≤ 2 ^ 31
  last : segment.newEnd = segment.newStart.advanced (segment.buf.length - 1)

/-- A property of stored bytes that every non-empty part of them inherits. -/
structure Hereditary (property : SeqNumber → Buffer → Prop) : Prop where
  drop : ∀ start bytes count, count < bytes.length → property start bytes →
    property (start.advanced count) (bytes.drop count)
  take : ∀ start bytes count, 0 < count → property start bytes → property start (bytes.take count)

/-- Entries that can be compared: not empty, and shorter than the sequence space. -/
def Comparable (store : List (SeqNumber × Buffer)) : Prop :=
  ∀ entry ∈ store, 0 < entry.2.length ∧ entry.2.length < 2 ^ 32

variable {property : SeqNumber → Buffer → Prop}

/-- Where the new segment ends before it overlaps the front of an entry, the
excess lies within it. -/
theorem front_excess {segment : NewSegment} (whole : Whole segment) {storedStart : SeqNumber}
    (before : segment.newStart.lt storedStart = true)
    (overlaps : segment.newEnd.lt storedStart = false) :
    segment.newStart.ahead storedStart < segment.buf.length ∧
      0 < segment.newStart.ahead storedStart ∧
      storedStart.ahead segment.newEnd =
        segment.buf.length - 1 - segment.newStart.ahead storedStart := by
  have occupied := whole.occupied
  have short := whole.short
  obtain ⟨positive, half⟩ := (SeqNumber.lt_iff _ _).mp before
  have endAhead : segment.newStart.ahead segment.newEnd = segment.buf.length - 1 := by
    rw [whole.last, SeqNumber.ahead_advanced_of_lt _ (by omega)]
  have ordered := SeqNumber.lt_iff_of_near segment.newStart segment.newEnd storedStart
    (by omega) (by omega)
  have reaches : ¬ segment.newStart.ahead segment.newEnd < segment.newStart.ahead storedStart := by
    rw [← ordered, overlaps]
    simp
  refine ⟨by omega, positive, ?_⟩
  rw [SeqNumber.ahead_between segment.newStart (by omega), endAhead]

/-- Where the new segment overlaps the end of an entry, that end lies within it
and is not its last byte. -/
theorem end_overlap {segment : NewSegment} (whole : Whole segment) {storedEnd : SeqNumber}
    (longer : segment.newEnd.le storedEnd = false) (overlaps : storedEnd.lt segment.newStart = false) :
    segment.newStart.ahead storedEnd + 1 < segment.buf.length := by
  have occupied := whole.occupied
  have short := whole.short
  have endAhead : segment.newStart.ahead segment.newEnd = segment.buf.length - 1 := by
    rw [whole.last, SeqNumber.ahead_advanced_of_lt _ (by omega)]
  have notBefore : ¬ (1 ≤ storedEnd.ahead segment.newStart ∧
      storedEnd.ahead segment.newStart ≤ 2 ^ 31) := by
    rw [← SeqNumber.lt_iff, overlaps]
    simp
  have notWithin : ¬ segment.newEnd.ahead storedEnd ≤ 2 ^ 31 := by
    rw [← SeqNumber.le_iff, longer]
    simp
  have turn := SeqNumber.ahead_back storedEnd segment.newStart
  have lap := SeqNumber.ahead_lt segment.newStart storedEnd
  by_contra covers
  have inner := SeqNumber.ahead_between segment.newStart
    (show segment.newStart.ahead segment.newEnd ≤ segment.newStart.ahead storedEnd by omega)
  omega

/-- What one pass leaves to do, with a property of the segment it leaves. -/
def Pass.Leaves (goal : NewSegment → Prop) : Pass → Prop
  | .duplicate => True
  | .encompassed _ segment => goal segment
  | .insert _ segment => goal segment

/-- One pass never fails and leaves a part of the new segment. -/
theorem pass_parts (profile : Profile) (hereditary : Hereditary property) (total : Nat)
    (store : List (SeqNumber × Buffer)) (comparable : Comparable store) (index : Nat)
    (segment : NewSegment) (whole : Whole segment) (holds : property segment.newStart segment.buf) :
    ∃ result, pass profile total store index segment = .ok result ∧
      result.Leaves fun part => Whole part ∧ property part.newStart part.buf := by
  induction store generalizing index segment with
  | nil => exact ⟨_, rfl, whole, holds⟩
  | cons entry rest inductionHypothesis =>
    obtain ⟨storedStart, stored⟩ := entry
    obtain ⟨storedOccupied, storedShort⟩ := comparable _ (List.mem_cons_self ..)
    dsimp only at storedOccupied storedShort
    have further : Comparable rest := fun entry member =>
      comparable entry (List.mem_cons_of_mem _ member)
    have occupied := whole.occupied
    have short := whole.short
    have counted : debugAssert profile (asU32 stored.length != 0) .emptyStoredSegment = .ok () := by
      rw [asU32_of_lt storedShort, bne_iff_ne.mpr (by omega), debugAssert_true]
    have last : subU32 profile (asU32 stored.length) 1 = .ok (stored.length - 1) := by
      rw [asU32_of_lt storedShort, subU32_of_le profile storedOccupied]
    simp only [pass, counted, last, bind, Except.bind]
    split
    · rename_i before
      split
      · exact ⟨_, rfl, whole, holds⟩
      rename_i overlaps
      split
      · exact ⟨_, rfl, whole, holds⟩
      · -- The front of the entry overlaps: the excess is cut off the new segment.
        obtain ⟨inside, positive, distance⟩ := front_excess whole before (Bool.eq_false_iff.mpr overlaps)
        have excess : addU32 profile (segment.newEnd - storedStart).toU32 1 =
            .ok (segment.buf.length - segment.newStart.ahead storedStart) := by
          rw [SeqNumber.toU32_sub, distance, addU32_of_lt profile (by omega)]
          congr 1
          omega
        have trims := Buffer.trim_of_le (show segment.buf.length -
          segment.newStart.ahead storedStart ≤ segment.buf.length by omega)
        rw [Nat.sub_sub_self (Nat.le_of_lt inside)] at trims
        simp only [excess, trims]
        refine ⟨_, rfl, ⟨?_, ?_, ?_⟩, hereditary.take _ _ _ positive holds⟩
        · simp only [List.length_take]; omega
        · simp only [List.length_take]; omega
        · simp only [List.length_take]
          rw [whole.last, SeqNumber.sub_ofU32 _ _ _ (by omega)]
          congr 1
          omega
    · split
      · exact ⟨_, rfl, trivial⟩
      rename_i longer
      split
      · exact inductionHypothesis further _ _ whole holds
      · rename_i overlaps
        -- The end of the entry overlaps: its distance is cut off the new segment.
        have inside := end_overlap whole (Bool.eq_false_iff.mpr longer) (Bool.eq_false_iff.mpr overlaps)
        rw [SeqNumber.add_ofU32] at inside
        have adjusts := Buffer.adjust_of_le (show segment.newStart.ahead
          (storedStart.advanced (stored.length - 1)) ≤ segment.buf.length by omega)
        simp only [SeqNumber.toU32_sub, SeqNumber.add_ofU32, adjusts]
        apply inductionHypothesis further
        · refine ⟨?_, ?_, ?_⟩
          · simp only [List.length_drop]; omega
          · simp only [List.length_drop]; omega
          · simp only [List.length_drop]
            rw [whole.last, SeqNumber.advanced_advanced]
            congr 1
            omega
        · exact hereditary.drop _ _ _ (by omega) holds

/-- Every entry is a non-empty part with the property. -/
def AllParts (property : SeqNumber → Buffer → Prop) (store : List (SeqNumber × Buffer)) : Prop :=
  ∀ entry ∈ store, 0 < entry.2.length ∧ entry.2.length ≤ 2 ^ 31 ∧ property entry.1 entry.2

/-- Entries that share a property of all their parts can be compared. -/
theorem AllParts.comparable {store : List (SeqNumber × Buffer)} (parts : AllParts property store) :
    Comparable store := by
  intro entry member
  obtain ⟨occupied, short, -⟩ := parts entry member
  exact ⟨occupied, by omega⟩

/-- The repeated passes never fail and store parts only. -/
theorem insertPasses_parts (profile : Profile) (hereditary : Hereditary property) (passes : Nat)
    (store : List (SeqNumber × Buffer)) (parts : AllParts property store) (segment : NewSegment)
    (whole : Whole segment) (holds : property segment.newStart segment.buf) :
    ∃ result, insertPasses profile passes store segment = .ok result ∧ AllParts property result.1 := by
  induction passes generalizing store segment with
  | zero => exact ⟨_, rfl, parts⟩
  | succ passes inductionHypothesis =>
    obtain ⟨result, passed, leaves⟩ := pass_parts profile hereditary store.length store
      parts.comparable 0 segment whole holds
    simp only [insertPasses, passed, bind, Except.bind]
    cases result with
    | duplicate => exact ⟨_, rfl, parts⟩
    | encompassed index part =>
      exact inductionHypothesis _ (fun entry member => parts entry (List.mem_of_mem_eraseIdx member))
        part leaves.1 leaves.2
    | insert index part =>
      refine ⟨_, rfl, ?_⟩
      intro entry member
      by_cases reached : index ≤ store.length
      · obtain rfl | earlier := (List.mem_insertIdx reached).mp member
        · exact ⟨leaves.1.occupied, leaves.1.short, leaves.2⟩
        · exact parts entry earlier
      · rw [List.insertIdx_of_length_lt (by omega)] at member
        exact parts entry member

/-- For every layout of the store, insertion succeeds and stores parts only. -/
theorem inserted_parts (profile : Profile) (hereditary : Hereditary property)
    {store : List (SeqNumber × Buffer)} (parts : AllParts property store) {segment : NewSegment}
    (whole : Whole segment) (holds : property segment.newStart segment.buf) :
    ∃ result, inserted profile store segment = .ok result ∧ AllParts property result.1 :=
  insertPasses_parts profile hereditary _ store parts segment whole holds

/-- For every layout of the store, storing a text succeeds and stores parts only. -/
theorem storeText_parts (profile : Profile) (hereditary : Hereditary property) (before : Reception)
    (text : Text) (parts : AllParts property before.outOfOrder) (short : text.bytes.length ≤ 2 ^ 31)
    (holds : text.bytes ≠ [] →
      property (before.receiver.receiveNext.advanced text.offset) text.bytes) :
    ∃ store, before.storeText profile text = .ok store ∧ AllParts property store := by
  unfold Reception.storeText
  split
  · exact ⟨_, rfl, parts⟩
  rename_i some
  have occupied := List.length_pos_iff.mpr some
  have whole : Whole (before.newSegment text) := by
    refine ⟨occupied, short, ?_⟩
    simp only [Reception.newSegment]
    rw [SeqNumber.advanced_advanced, Nat.add_sub_assoc occupied]
  obtain ⟨⟨store, flag⟩, inserts, kept⟩ := inserted_parts profile hereditary parts whole (holds some)
  simp only [inserts, bind, Except.bind]
  refine ⟨_, rfl, ?_⟩
  split
  · exact fun entry member => kept entry (List.mem_of_mem_take member)
  · exact kept

/-! ## A tidy store -/

/-- Half-open interval of positions an entry covers, seen from an origin. -/
def first (origin : SeqNumber) (entry : SeqNumber × Buffer) : Nat := origin.ahead entry.1

/-- How far behind the origin an entry ends. -/
def past (origin : SeqNumber) (entry : SeqNumber × Buffer) : Nat :=
  origin.ahead entry.1 + entry.2.length

/-- "Sorted by starting sequence number, and contains no duplicate data": every
entry is non-empty, starts after the origin, ends within the limit and before the
next entry starts. -/
structure Tidy (origin : SeqNumber) (limit : Nat) (store : List (SeqNumber × Buffer)) : Prop where
  ordered : store.Pairwise fun earlier later => past origin earlier ≤ first origin later
  occupied : ∀ entry ∈ store, 0 < entry.2.length
  ahead : ∀ entry ∈ store, 0 < first origin entry
  within : ∀ entry ∈ store, past origin entry ≤ limit

/-- The new positions `[start, stop)` overlap an entry entirely or not at all:
they lie before it, after it, within it, or reach beyond it on both sides. -/
def Clean (origin : SeqNumber) (start stop : Nat) (entry : SeqNumber × Buffer) : Prop :=
  stop ≤ first origin entry ∨ past origin entry ≤ start ∨
    (first origin entry ≤ start ∧ stop ≤ past origin entry) ∨
    (start < first origin entry ∧ past origin entry < stop)

variable {origin : SeqNumber} {limit start stop : Nat} {store : List (SeqNumber × Buffer)}

/-- A store splits around clean positions: some entry contains them, or the
entries lie before them, strictly inside them and after them. -/
theorem split_clean (tidy : Tidy origin limit store)
    (clean : ∀ entry ∈ store, Clean origin start stop entry) :
    (∃ before entry after, store = before ++ entry :: after ∧
      (∀ earlier ∈ before, past origin earlier ≤ start) ∧
      first origin entry ≤ start ∧ stop ≤ past origin entry) ∨
    (∃ before middle after, store = before ++ middle ++ after ∧
      (∀ entry ∈ before, past origin entry ≤ start) ∧
      (∀ entry ∈ middle, start < first origin entry ∧ past origin entry < stop) ∧
      (∀ entry ∈ after, stop ≤ first origin entry)) := by
  obtain ⟨ordered, occupied, -, -⟩ := tidy
  induction store with
  | nil => exact .inr ⟨[], [], [], rfl, by simp, by simp, by simp⟩
  | cons entry rest inductionHypothesis =>
    obtain ⟨here, ordered⟩ := List.pairwise_cons.mp ordered
    have wide : first origin entry < past origin entry := by
      have := occupied entry (List.mem_cons_self ..)
      simp only [first, past]
      omega
    have wide' (later : SeqNumber × Buffer) (member : later ∈ rest) :
        first origin later < past origin later := by
      have := occupied later (List.mem_cons_of_mem _ member)
      simp only [first, past]
      omega
    have tail := inductionHypothesis (fun entry member => clean entry (List.mem_cons_of_mem _ member))
      ordered (fun entry member => occupied entry (List.mem_cons_of_mem _ member))
    obtain before | after | containing | inside := clean entry (List.mem_cons_self ..)
    · right
      refine ⟨[], [], entry :: rest, rfl, by simp, by simp, ?_⟩
      intro later member
      obtain rfl | member := List.mem_cons.mp member
      · exact before
      · have := here later member
        omega
    · obtain ⟨before, later, rest', split, ends, containing⟩ |
        ⟨before, middle, rest', split, ends, inside, begins⟩ := tail
      · left
        refine ⟨entry :: before, later, rest', by rw [split, List.cons_append], ?_, containing⟩
        exact fun earlier member => (List.mem_cons.mp member).elim (fun same => same ▸ after)
          (ends earlier)
      · right
        refine ⟨entry :: before, middle, rest', by rw [split]; rfl, ?_, inside, begins⟩
        exact fun earlier member => (List.mem_cons.mp member).elim (fun same => same ▸ after)
          (ends earlier)
    · exact .inl ⟨[], entry, rest, rfl, by simp, containing⟩
    · obtain ⟨before, later, rest', split, ends, containing⟩ |
        ⟨before, middle, rest', split, ends, inside', begins⟩ := tail
      · have := here later (by rw [split]; simp)
        omega
      · right
        -- Nothing of the rest ends before the new positions start.
        have none : before = [] := by
          cases before with
          | nil => rfl
          | cons later _ =>
            have member : later ∈ rest := by rw [split]; simp
            have := here later member
            have := wide' later member
            have := ends later (List.mem_cons_self ..)
            omega
        subst none
        refine ⟨[], entry :: middle, rest', by rw [split]; rfl, by simp, ?_, begins⟩
        exact fun later member => (List.mem_cons.mp member).elim (fun same => same ▸ inside)
          (inside' later)

/-- A new segment at the positions `[start, stop)`. -/
structure Placed (origin : SeqNumber) (start stop : Nat) (segment : NewSegment) : Prop where
  begins : segment.newStart = origin.advanced start
  last : segment.newEnd = origin.advanced (stop - 1)
  occupied : start < stop
  near : stop < 2 ^ 31

/-- How the loop body sees an entry that lies near the origin. -/
structure Compared (origin : SeqNumber) (start stop : Nat) (segment : NewSegment)
    (entry : SeqNumber × Buffer) : Prop where
  startsBefore : segment.newStart.lt entry.1 = decide (start < first origin entry)
  endsBefore : segment.newEnd.lt entry.1 = decide (stop ≤ first origin entry)
  reachesBeyond : (entry.1 + SeqNumber.ofU32 (entry.2.length - 1)).lt segment.newEnd =
    decide (past origin entry < stop)
  endsWithin : segment.newEnd.le (entry.1 + SeqNumber.ofU32 (entry.2.length - 1)) =
    decide (stop ≤ past origin entry)
  startsAfter : (entry.1 + SeqNumber.ofU32 (entry.2.length - 1)).lt segment.newStart =
    decide (past origin entry ≤ start)

variable {segment : NewSegment} {entry : SeqNumber × Buffer}

/-- Near the origin the wrapping comparisons are comparisons of positions. -/
theorem compared (placed : Placed origin start stop segment) (occupied : 0 < entry.2.length)
    (near : past origin entry < 2 ^ 31) : Compared origin start stop segment entry := by
  obtain ⟨startAt, lastAt, some, close⟩ := placed
  have startAhead : origin.ahead segment.newStart = start := by
    rw [startAt, SeqNumber.ahead_advanced_of_lt _ (by omega)]
  have lastAhead : origin.ahead segment.newEnd = stop - 1 := by
    rw [lastAt, SeqNumber.ahead_advanced_of_lt _ (by omega)]
  have bounds : past origin entry = first origin entry + entry.2.length := rfl
  have firstAhead : origin.ahead entry.1 = first origin entry := rfl
  have endAhead : origin.ahead (entry.1 + SeqNumber.ofU32 (entry.2.length - 1)) =
      past origin entry - 1 := by
    have reached : entry.1 + SeqNumber.ofU32 (entry.2.length - 1) =
        origin.advanced (past origin entry - 1) := by
      rw [SeqNumber.add_ofU32, ← SeqNumber.advanced_ahead origin entry.1, SeqNumber.advanced_advanced]
      congr 1
      omega
    rw [reached, SeqNumber.ahead_advanced_of_lt _ (by omega)]
  refine ⟨?_, ?_, ?_, ?_, ?_⟩
  all_goals
    rw [Bool.eq_iff_iff, decide_eq_true_iff]
    first
      | rw [SeqNumber.lt_iff_of_near origin _ _ (by omega) (by omega)]
      | rw [SeqNumber.le_iff_of_near origin _ _ (by omega) (by omega)]
    omega

/-- The loop body on one entry near the origin. -/
theorem pass_entry (profile : Profile) (total : Nat) (rest : List (SeqNumber × Buffer)) (index : Nat)
    (placed : Placed origin start stop segment) (occupied : 0 < entry.2.length)
    (near : past origin entry < 2 ^ 31) (clean : Clean origin start stop entry) :
    pass profile total (entry :: rest) index segment =
      if past origin entry ≤ start then pass profile total rest (index + 1) segment
      else if stop ≤ first origin entry then .ok (.insert index segment)
      else if first origin entry ≤ start then .ok .duplicate
      else .ok (.encompassed index segment) := by
  have seen := compared placed occupied near
  have some := placed.occupied
  have bounds : past origin entry = first origin entry + entry.2.length := rfl
  obtain ⟨storedStart, stored⟩ := entry
  dsimp only at occupied
  have storedShort : stored.length < 2 ^ 32 := by simp only [bounds] at near; omega
  have counted : debugAssert profile (asU32 stored.length != 0) .emptyStoredSegment = .ok () := by
    rw [asU32_of_lt storedShort, bne_iff_ne.mpr (by omega), debugAssert_true]
  have last : subU32 profile (asU32 stored.length) 1 = .ok (stored.length - 1) := by
    rw [asU32_of_lt storedShort, subU32_of_le profile occupied]
  simp only [pass, counted, last, bind, Except.bind, seen.startsBefore, seen.endsBefore,
    seen.reachesBeyond, seen.endsWithin, seen.startsAfter, decide_eq_true_iff]
  unfold Clean at clean
  dsimp only at bounds
  split_ifs <;> first | rfl | omega

/-- A pass skips the entries that end before the new segment. -/
theorem pass_skip (profile : Profile) (total : Nat) (before rest : List (SeqNumber × Buffer))
    (index : Nat) (placed : Placed origin start stop segment)
    (occupied : ∀ entry ∈ before, 0 < entry.2.length)
    (ends : ∀ entry ∈ before, past origin entry ≤ start) :
    pass profile total (before ++ rest) index segment =
      pass profile total rest (index + before.length) segment := by
  induction before generalizing index with
  | nil => rfl
  | cons entry before inductionHypothesis =>
    have close := placed.near
    have some := placed.occupied
    have here := ends entry (List.mem_cons_self ..)
    rw [List.cons_append, pass_entry profile total _ index placed
      (occupied entry (List.mem_cons_self ..)) (by omega) (.inr (.inl here)), if_pos here,
      inductionHypothesis (index + 1) (fun later member => occupied later (List.mem_cons_of_mem _ member))
        (fun later member => ends later (List.mem_cons_of_mem _ member)), List.length_cons]
    congr 1
    omega

/-- An insertion behind the first entries stands in front of the others. -/
theorem insertIdx_append (before rest : List (SeqNumber × Buffer)) (entry : SeqNumber × Buffer) :
    (before ++ rest).insertIdx before.length entry = before ++ entry :: rest := by
  induction before with
  | nil => rfl
  | cons head before inductionHypothesis => simp [inductionHypothesis]

/-- Repeated passes remove the entries inside the new segment and insert it in
their place. -/
theorem insertPasses_between (profile : Profile) (before middle after : List (SeqNumber × Buffer))
    (passes : Nat) (enough : middle.length < passes) (placed : Placed origin start stop segment)
    (occupied : ∀ entry ∈ before ++ middle ++ after, 0 < entry.2.length)
    (near : ∀ entry ∈ before ++ middle ++ after, past origin entry < 2 ^ 31)
    (ends : ∀ entry ∈ before, past origin entry ≤ start)
    (inside : ∀ entry ∈ middle, start < first origin entry ∧ past origin entry < stop)
    (begins : ∀ entry ∈ after, stop ≤ first origin entry) :
    insertPasses profile passes (before ++ middle ++ after) segment =
      .ok (before ++ (segment.newStart, segment.buf) :: after, true) := by
  have some := placed.occupied
  induction middle generalizing passes with
  | nil =>
    obtain ⟨passes, rfl⟩ := Nat.exists_eq_succ_of_ne_zero (Nat.ne_of_gt enough)
    rw [List.append_nil] at occupied near ⊢
    have found : pass profile (before ++ after).length (before ++ after) 0 segment =
        .ok (.insert before.length segment) := by
      rw [pass_skip profile _ before after 0 placed
        (fun entry member => occupied entry (List.mem_append_left _ member)) ends, Nat.zero_add]
      cases after with
      | nil => simp [pass]
      | cons entry rest =>
        have here := begins entry (List.mem_cons_self ..)
        have member : entry ∈ before ++ entry :: rest := by simp
        have wide : past origin entry = first origin entry + entry.2.length := rfl
        rw [pass_entry profile _ rest _ placed (occupied entry member) (near entry member)
          (.inl here), if_neg (by omega), if_pos here]
    simp only [insertPasses, found, bind, Except.bind, insertIdx_append]
  | cons entry middle inductionHypothesis =>
    obtain ⟨passes, rfl⟩ := Nat.exists_eq_succ_of_ne_zero
      (show passes ≠ 0 by rw [List.length_cons] at enough; omega)
    obtain ⟨starts, stops⟩ := inside entry (List.mem_cons_self ..)
    have member : entry ∈ before ++ entry :: middle ++ after := by simp
    have wide : past origin entry = first origin entry + entry.2.length := rfl
    have found : pass profile (before ++ entry :: middle ++ after).length
        (before ++ entry :: middle ++ after) 0 segment = .ok (.encompassed before.length segment) := by
      rw [List.append_assoc, pass_skip profile _ before _ 0 placed
        (fun entry member => occupied entry (by simp [member])) ends, Nat.zero_add, List.cons_append,
        pass_entry profile _ _ _ placed (occupied entry member) (near entry member)
        (.inr (.inr (.inr ⟨starts, stops⟩))), if_neg (by omega), if_neg (by omega),
        if_neg (by omega)]
    have erased : (before ++ entry :: middle ++ after).eraseIdx before.length =
        before ++ middle ++ after := by
      rw [List.append_assoc, List.eraseIdx_append_of_length_le (Nat.le_refl _)]
      simp
    have fewer (later : SeqNumber × Buffer) (member : later ∈ before ++ middle ++ after) :
        later ∈ before ++ entry :: middle ++ after := by
      simp only [List.append_assoc, List.mem_append, List.cons_append, List.mem_cons] at member ⊢
      exact member.imp_right .inr
    simp only [insertPasses, found, bind, Except.bind, erased]
    exact inductionHypothesis passes (by rw [List.length_cons] at enough; omega)
      (fun later member => occupied later (fewer later member))
      (fun later member => near later (fewer later member))
      (fun later member => inside later (List.mem_cons_of_mem _ member))

/-- In a tidy store a clean segment is a duplicate of part of one entry, or takes
the place of the entries inside it. -/
theorem inserted_clean (profile : Profile) (tidy : Tidy origin limit store)
    (placed : Placed origin start stop segment) (close : limit < 2 ^ 31)
    (clean : ∀ entry ∈ store, Clean origin start stop entry) :
    (inserted profile store segment = .ok (store, false) ∧
      ∃ entry ∈ store, first origin entry ≤ start ∧ stop ≤ past origin entry) ∨
    (∃ before middle after, store = before ++ middle ++ after ∧
      (∀ entry ∈ before, past origin entry ≤ start) ∧
      (∀ entry ∈ middle, start < first origin entry ∧ past origin entry < stop) ∧
      (∀ entry ∈ after, stop ≤ first origin entry) ∧
      inserted profile store segment =
        .ok (before ++ (segment.newStart, segment.buf) :: after, true)) := by
  have near (entry : SeqNumber × Buffer) (member : entry ∈ store) : past origin entry < 2 ^ 31 := by
    have := tidy.within entry member
    omega
  obtain ⟨before, entry, after, split, ends, starts, stops⟩ |
    ⟨before, middle, after, split, ends, inside, begins⟩ := split_clean tidy clean
  · left
    have member : entry ∈ store := by rw [split]; simp
    have some := placed.occupied
    refine ⟨?_, entry, member, starts, stops⟩
    have found : pass profile store.length store 0 segment = .ok .duplicate := by
      rw [split, pass_skip profile _ before _ 0 placed
        (fun entry member => tidy.occupied entry (by rw [split]; simp [member])) ends,
        pass_entry profile _ after _ placed (tidy.occupied entry member) (near entry member)
        (.inr (.inr (.inl ⟨starts, stops⟩))), if_neg (by omega), if_neg (by omega), if_pos starts]
    simp only [inserted, insertPasses, found, bind, Except.bind]
  · right
    refine ⟨before, middle, after, split, ends, inside, begins, ?_⟩
    subst split
    apply insertPasses_between profile before middle after _ _ placed tidy.occupied near ends inside
      begins
    simp only [List.length_append]
    omega

/-- The positions that the entries of a store cover. -/
def Covers (origin : SeqNumber) (store : List (SeqNumber × Buffer)) (position : Nat) : Prop :=
  ∃ entry ∈ store, first origin entry ≤ position ∧ position < past origin entry

/-- Some entries of a tidy store are tidy. -/
theorem Tidy.sublist {other : List (SeqNumber × Buffer)} (tidy : Tidy origin limit store)
    (fewer : other.Sublist store) : Tidy origin limit other :=
  ⟨tidy.ordered.sublist fewer, fun entry member => tidy.occupied entry (fewer.subset member),
    fun entry member => tidy.ahead entry (fewer.subset member),
    fun entry member => tidy.within entry (fewer.subset member)⟩

/-- A tidy store stays tidy under a wider limit. -/
theorem Tidy.widen {wider : Nat} (tidy : Tidy origin limit store) (more : limit ≤ wider) :
    Tidy origin wider store :=
  ⟨tidy.ordered, tidy.occupied, tidy.ahead, fun entry member =>
    Nat.le_trans (tidy.within entry member) more⟩

/-- A tidy store seen from further on, short of its first entry. -/
theorem first_advanced {count : Nat} {entry : SeqNumber × Buffer}
    (short : count ≤ first origin entry) :
    first (origin.advanced count) entry = first origin entry - count :=
  SeqNumber.ahead_from_advanced short

/-- Seen from further ahead, an entry ends so much closer. -/
theorem past_advanced {count : Nat} {entry : SeqNumber × Buffer}
    (short : count ≤ first origin entry) :
    past (origin.advanced count) entry = past origin entry - count := by
  have moved := first_advanced short
  simp only [first, past] at moved short ⊢
  omega

/-- A tidy store stays tidy seen from further ahead, as long as no entry is passed. -/
theorem Tidy.advance {count : Nat} (tidy : Tidy origin limit store)
    (short : ∀ entry ∈ store, count < first origin entry) :
    Tidy (origin.advanced count) (limit - count) store := by
  have moved (entry : SeqNumber × Buffer) (member : entry ∈ store) :=
    first_advanced (Nat.le_of_lt (short entry member))
  have moved' (entry : SeqNumber × Buffer) (member : entry ∈ store) :=
    past_advanced (Nat.le_of_lt (short entry member))
  refine ⟨?_, tidy.occupied, ?_, ?_⟩
  · refine tidy.ordered.imp_of_mem ?_
    intro earlier later here there apart
    rw [moved' earlier here, moved later there]
    omega
  · intro entry member
    have := short entry member
    rw [moved entry member]
    omega
  · intro entry member
    have := tidy.within entry member
    rw [moved' entry member]
    omega

/-- The new entry in the place of those inside it leaves the store tidy. -/
theorem Tidy.replace {before middle after : List (SeqNumber × Buffer)}
    (tidy : Tidy origin limit (before ++ middle ++ after)) (entry : SeqNumber × Buffer)
    (occupied : 0 < entry.2.length) (positive : 0 < first origin entry)
    (within : past origin entry ≤ limit)
    (ends : ∀ earlier ∈ before, past origin earlier ≤ first origin entry)
    (begins : ∀ later ∈ after, past origin entry ≤ first origin later) :
    Tidy origin limit (before ++ entry :: after) := by
  have kept : Tidy origin limit (before ++ after) :=
    tidy.sublist ((List.sublist_append_left before middle).append_right after)
  have members {property : SeqNumber × Buffer → Prop} (new : property entry)
      (old : ∀ other ∈ before ++ after, property other) :
      ∀ other ∈ before ++ entry :: after, property other := by
    intro other member
    obtain here | rfl | there := by
      simpa only [List.mem_append, List.mem_cons] using member
    · exact old other (List.mem_append_left _ here)
    · exact new
    · exact old other (List.mem_append_right _ there)
  refine ⟨?_, members occupied kept.occupied, members positive kept.ahead, members within kept.within⟩
  obtain ⟨orderedBefore, orderedAfter, across⟩ := List.pairwise_append.mp kept.ordered
  refine List.pairwise_append.mpr ⟨orderedBefore, List.pairwise_cons.mpr ⟨begins, orderedAfter⟩, ?_⟩
  intro earlier here later there
  obtain rfl | there := List.mem_cons.mp there
  · exact ends earlier here
  · exact across earlier here later there

/-- The insertion is not followed by a cut. -/
def Uncut (profile : Profile) (before : Reception) (text : Text) : Prop :=
  ∀ result, inserted profile before.outOfOrder (before.newSegment text) = .ok result →
    result.1.length ≤ MAX_OUT_OF_ORDER

/-- Storing clean text keeps the store tidy and, unless entries are cut off, adds
exactly the positions of the text. -/
theorem storeText_clean (profile : Profile) (before : Reception) (text : Text)
    (tidy : Tidy before.receiver.receiveNext limit before.outOfOrder) (close : limit < 2 ^ 31)
    (later : 0 < text.offset) (fits : text.offset + text.bytes.length ≤ limit)
    (clean : text.bytes ≠ [] → ∀ entry ∈ before.outOfOrder, Clean before.receiver.receiveNext text.offset
      (text.offset + text.bytes.length) entry)
    {store : List (SeqNumber × Buffer)} (stored : before.storeText profile text = .ok store) :
    Tidy before.receiver.receiveNext limit store ∧
    (Uncut profile before text → ∀ position, Covers before.receiver.receiveNext store position ↔
      Covers before.receiver.receiveNext before.outOfOrder position ∨
        (text.offset ≤ position ∧ position < text.offset + text.bytes.length)) := by
  unfold Reception.storeText at stored
  split at stored
  · rename_i empty
    cases stored
    refine ⟨tidy, fun _ position => ⟨.inl, fun covered => covered.resolve_right ?_⟩⟩
    rw [empty, List.length_nil]
    omega
  rename_i some
  have occupied := List.length_pos_iff.mpr some
  have placed : Placed before.receiver.receiveNext text.offset (text.offset + text.bytes.length)
      (before.newSegment text) := ⟨rfl, rfl, by omega, by omega⟩
  obtain ⟨inserts, entry, member, starts, stops⟩ |
    ⟨earlier, middle, after, split, ends, inside, begins, inserts⟩ :=
      inserted_clean profile tidy placed close (clean some)
  · rw [inserts] at stored
    cases stored
    refine ⟨tidy, fun _ position => ⟨.inl, fun covered => ?_⟩⟩
    rcases covered with old | new
    · exact old
    · exact ⟨entry, member, by omega, by omega⟩
  · have firstNew : first before.receiver.receiveNext
        (before.receiver.receiveNext.advanced text.offset, text.bytes) = text.offset :=
      SeqNumber.ahead_advanced_of_lt _ (by omega)
    have pastNew : past before.receiver.receiveNext
        (before.receiver.receiveNext.advanced text.offset, text.bytes) =
          text.offset + text.bytes.length := by
      simp only [first, past] at firstNew ⊢
      omega
    have whole : Tidy before.receiver.receiveNext limit (earlier ++
        (before.receiver.receiveNext.advanced text.offset, text.bytes) :: after) := by
      rw [split] at tidy
      refine tidy.replace _ occupied (by rw [firstNew]; exact later) (by rw [pastNew]; exact fits) ?_ ?_
      · rw [firstNew]
        exact ends
      · rw [pastNew]
        exact begins
    rw [inserts] at stored
    cases stored
    refine ⟨whole.sublist (List.take_sublist _ _), fun uncut position => ?_⟩
    have short := uncut _ inserts
    simp only [if_true]
    rw [List.take_of_length_le short, split]
    constructor
    · rintro ⟨entry, member, above, below⟩
      obtain here | rfl | there := by
        simpa only [List.mem_append, List.mem_cons] using member
      · exact .inl ⟨entry, by simp [here], above, below⟩
      · exact .inr ⟨by rw [← firstNew]; exact above, by rw [← pastNew]; exact below⟩
      · exact .inl ⟨entry, by simp [there], above, below⟩
    · rintro (⟨entry, member, above, below⟩ | ⟨above, below⟩)
      · obtain here | there | further := by
          simpa only [List.mem_append, or_assoc] using member
        · exact ⟨entry, by simp [here], above, below⟩
        · obtain ⟨starts, stops⟩ := inside entry there
          exact ⟨_, List.mem_append_right _ (List.mem_cons_self ..), by rw [Reception.newSegment, firstNew]; omega,
            by rw [Reception.newSegment, pastNew]; omega⟩
        · exact ⟨entry, by simp [further], above, below⟩
      · exact ⟨_, List.mem_append_right _ (List.mem_cons_self ..), by rw [Reception.newSegment, firstNew]; omega,
          by rw [Reception.newSegment, pastNew]; omega⟩

end OutOfOrder

end Capybara
