import Capybara.TcpMig.Defragmentation
import Mathlib.Algebra.BigOperators.Group.Finset.Basic

/-!
# Collecting the fragments of one message

A defragmenter that is fed fragments of one message, each at most once, is described
by the set of positions it has stored. It hands out the message with the fragment
that completes the set, in whatever order they arrive, and nothing before.
-/

namespace Capybara

open Chunks

namespace TcpMigDefragmenter

/-! ## What is stored where -/

/-- Storing a fragment changes its own position only. -/
theorem store_getD (fragments : List Buffer) (offset position : Nat) (buf : Buffer) :
    (store fragments offset buf).getD position [] =
      if position = offset then buf else fragments.getD position [] := by
  have padded := padded_getD fragments (offset + 1 - fragments.length) position
  unfold store
  simp only [List.getD_eq_getElem?_getD, List.getElem?_set] at padded ⊢
  by_cases same : offset = position
  · subst same
    have room : offset < (fragments ++ List.replicate (offset + 1 - fragments.length) []).length := by
      simp only [List.length_append, List.length_replicate]
      omega
    simp only [if_pos room, if_true, Option.getD_some]
  · rw [if_neg same, if_neg (Ne.symm same), padded]

/-- Storing a fragment makes the list reach as far as its position. -/
theorem store_length (fragments : List Buffer) (offset : Nat) (buf : Buffer) :
    (store fragments offset buf).length = max fragments.length (offset + 1) := by
  simp only [store, List.length_set, List.length_append, List.length_replicate]
  omega

section Stored

variable {pieces : List Buffer} {defragmenter : TcpMigDefragmenter} {hdr : TcpMigHeader}
  {position : Nat} {held : Nat → Prop}

/-- A fragment takes its place beside those that are held. -/
theorem gathered_fragments [DecidablePred held] (offset : hdr.fragmentOffset.toNat = position)
    (fragments : ∀ other, defragmenter.fragments.getD other [] =
      if held other then pieces.getD other [] else []) (other : Nat) :
    (defragmenter.gathered hdr (pieces.getD position [])).fragments.getD other [] =
      if other = position ∨ held other then pieces.getD other [] else [] := by
  simp only [gathered, offset, store_getD, fragments]
  by_cases same : other = position
  · simp [same]
  · simp [same]

/-- What is held is reached, also the position of the new fragment. -/
theorem gathered_reached (offset : hdr.fragmentOffset.toNat = position) {buf : Buffer}
    (reached : ∀ other, held other → other < defragmenter.fragments.length) :
    ∀ other, other = position ∨ held other →
      other < (defragmenter.gathered hdr buf).fragments.length := by
  intro other member
  simp only [gathered, offset, store_length]
  obtain rfl | member := member
  · omega
  · have earlier := reached other member
    omega

/-- The list never reaches beyond the pieces of the message. -/
theorem gathered_bounded (offset : hdr.fragmentOffset.toNat = position)
    (inside : position < pieces.length) {buf : Buffer}
    (bounded : defragmenter.fragments.length ≤ pieces.length) :
    (defragmenter.gathered hdr buf).fragments.length ≤ pieces.length := by
  simp only [gathered, offset, store_length]
  omega

/-- The total is known from the last fragment on. -/
theorem gathered_total [DecidablePred held] (offset : hdr.fragmentOffset.toNat = position)
    (inside : position < pieces.length)
    (next : hdr.flagNextFragment = decide (position + 1 < pieces.length)) {buf : Buffer}
    (total : defragmenter.totalFragments =
      if held (pieces.length - 1) then some pieces.length else none) :
    (defragmenter.gathered hdr buf).totalFragments =
      if pieces.length - 1 = position ∨ held (pieces.length - 1) then some pieces.length
      else none := by
  simp only [gathered, offset, next, total]
  by_cases further : position + 1 < pieces.length
  · have different : pieces.length - 1 ≠ position := by omega
    simp [further, different]
  · have last : pieces.length - 1 = position := by omega
    have count : position + 1 = pieces.length := by omega
    simp [last, count]

/-- Once every position is held the fragments are the pieces. -/
theorem fragments_complete [DecidablePred held]
    (fragments : ∀ other, defragmenter.fragments.getD other [] =
      if held other then pieces.getD other [] else [])
    (reached : ∀ other, held other → other < defragmenter.fragments.length)
    (bounded : defragmenter.fragments.length ≤ pieces.length)
    (every : ∀ other < pieces.length, held other) : defragmenter.fragments = pieces := by
  have length : defragmenter.fragments.length = pieces.length := by
    refine Nat.le_antisymm bounded ?_
    by_contra shorter
    have last := reached (pieces.length - 1) (every _ (by omega))
    omega
  refine List.ext_getElem length fun other within within' => ?_
  have stored := fragments other
  rw [if_pos (every other within')] at stored
  rwa [List.getD_eq_getElem?_getD, List.getD_eq_getElem?_getD, List.getElem?_eq_getElem within,
    List.getElem?_eq_getElem within'] at stored

end Stored

/-- The length of a concatenation, position by position. -/
theorem flatten_length_eq (fragments : List Buffer) :
    fragments.flatten.length =
      ∑ position ∈ Finset.range fragments.length, (fragments.getD position []).length := by
  induction fragments with
  | nil => rfl
  | cons first fragments inductionHypothesis =>
    rw [List.flatten_cons, List.length_append, List.length_cons, Finset.sum_range_succ',
      inductionHypothesis, Nat.add_comm]
    rfl

/-- The defragmenter has stored these positions of the pieces of a message, each once. -/
structure Collects (pieces : List Buffer) (stored : Finset Nat) (defragmenter : TcpMigDefragmenter) :
    Prop where
  fragments : ∀ position, defragmenter.fragments.getD position [] =
    if position ∈ stored then pieces.getD position [] else []
  reached : ∀ position ∈ stored, position < defragmenter.fragments.length
  bounded : defragmenter.fragments.length ≤ pieces.length
  total : defragmenter.totalFragments =
    if pieces.length - 1 ∈ stored then some pieces.length else none
  count : defragmenter.currentFragments = stored.card
  size : defragmenter.currentSize = ∑ position ∈ stored, (pieces.getD position []).length
  fresh : stored = ∅ → defragmenter = .new

variable {pieces : List Buffer} {stored : Finset Nat} {defragmenter : TcpMigDefragmenter}

/-- A new defragmenter has collected nothing. -/
theorem Collects.new (pieces : List Buffer) : Collects pieces ∅ .new where
  fragments := by simp [TcpMigDefragmenter.new]
  reached := by simp
  bounded := Nat.zero_le _
  total := by simp [TcpMigDefragmenter.new]
  count := rfl
  size := rfl
  fresh := fun _ => rfl

/-- The counted size is that of what is stored. -/
theorem Collects.covers (collects : Collects pieces stored defragmenter) : defragmenter.Covers := by
  unfold Covers
  rw [flatten_length_eq, collects.size]
  apply Nat.le_of_eq
  symm
  have inside : stored ⊆ Finset.range defragmenter.fragments.length := by
    intro position member
    exact Finset.mem_range.mpr (collects.reached position member)
  calc ∑ position ∈ stored, (pieces.getD position []).length
      = ∑ position ∈ stored, (defragmenter.fragments.getD position []).length := by
        refine Finset.sum_congr rfl fun position member => ?_
        rw [collects.fragments, if_pos member]
    _ = ∑ position ∈ Finset.range defragmenter.fragments.length,
          (defragmenter.fragments.getD position []).length := by
        refine Finset.sum_subset inside fun position _ missing => ?_
        rw [collects.fragments, if_neg missing]
        rfl

/-- A fragment that has not been stored takes its place. -/
theorem Collects.gathered {position : Nat} {hdr : TcpMigHeader}
    (collects : Collects pieces stored defragmenter) (inside : position < pieces.length)
    (missing : position ∉ stored) (offset : hdr.fragmentOffset.toNat = position)
    (next : hdr.flagNextFragment = decide (position + 1 < pieces.length)) :
    Collects pieces (insert position stored)
      (defragmenter.gathered hdr (pieces.getD position [])) where
  fragments := by
    simp only [Finset.mem_insert]
    exact gathered_fragments offset collects.fragments
  reached := by
    simp only [Finset.mem_insert]
    exact gathered_reached offset collects.reached
  bounded := gathered_bounded offset inside collects.bounded
  total := by
    simp only [Finset.mem_insert]
    exact gathered_total offset inside next collects.total
  count := by
    simp only [TcpMigDefragmenter.gathered, collects.count, Finset.card_insert_of_notMem missing]
  size := by
    simp only [TcpMigDefragmenter.gathered, collects.size, Finset.sum_insert missing]
    exact Nat.add_comm _ _
  fresh := by
    intro empty
    exact absurd empty (Finset.insert_ne_empty _ _)

/-- Only positions of the message are stored. -/
theorem Collects.subset (collects : Collects pieces stored defragmenter) :
    stored ⊆ Finset.range pieces.length := by
  intro position member
  have inside := collects.reached position member
  exact Finset.mem_range.mpr (Nat.lt_of_lt_of_le inside collects.bounded)

/-- Once every position is stored the fragments are the pieces. -/
theorem Collects.complete (collects : Collects pieces (Finset.range pieces.length) defragmenter) :
    defragmenter.fragments = pieces :=
  fragments_complete collects.fragments collects.reached collects.bounded fun _ =>
    Finset.mem_range.mpr

/-- The total is known and reached exactly when every position is stored. -/
theorem Collects.counted (collects : Collects pieces stored defragmenter) (some_ : pieces ≠ []) :
    defragmenter.totalFragments = some defragmenter.currentFragments ↔
      stored = Finset.range pieces.length := by
  have positive := List.length_pos_of_ne_nil some_
  rw [collects.total, collects.count]
  constructor
  · intro reached
    split at reached
    · have cardinal : (Finset.range pieces.length).card ≤ stored.card := by
        rw [Finset.card_range, Option.some.inj reached]
      exact Finset.eq_of_subset_of_card_le collects.subset cardinal
    · cases reached
  · rintro rfl
    rw [if_pos (Finset.mem_range.mpr (by omega)), Finset.card_range]

/-! ## Fragments of one message -/

/-- The fragment at a position of a message. -/
def piece (segment : TcpMigSegment) (pieces : List Buffer) (position : Nat) : TcpMigSegment :=
  segment.fragment pieces.length (pieces.getD position [], position)

variable (profile : Profile) (segment : TcpMigSegment) {position : Nat}

/-- The header of a message that has been joined again. -/
def joinedHeader (segment : TcpMigSegment) : TcpMigHeader :=
  { segment.tcpmigHdr with flagNextFragment := false, fragmentOffset := 0 }

/-- A fragment bears its position, of which there are at most 2^16. -/
theorem piece_offset (few : pieces.length ≤ 2 ^ 16) (inside : position < pieces.length) :
    (piece segment pieces position).tcpmigHdr.fragmentOffset.toNat = position := by
  have fits : position < 2 ^ 16 := Nat.lt_of_lt_of_le inside few
  exact Nat.mod_eq_of_lt fits

/-- A fragment of several is stored. -/
theorem piece_stores (few : pieces.length ≤ 2 ^ 16) (several : pieces.length ≠ 1)
    (inside : position < pieces.length) :
    ¬ ((piece segment pieces position).tcpmigHdr.flagNextFragment = false ∧
      (piece segment pieces position).tcpmigHdr.fragmentOffset = 0) := by
  rintro ⟨last, first⟩
  have offset := piece_offset segment few inside
  have next : (piece segment pieces position).tcpmigHdr.flagNextFragment =
    decide (position + 1 < pieces.length) := rfl
  rw [first] at offset
  rw [next, decide_eq_false_iff_not] at last
  have zero : position = 0 := offset.symm
  omega

/-- The last fragment is stored behind the others. -/
theorem piece_fits (few : pieces.length ≤ 2 ^ 16)
    (bounded : defragmenter.fragments.length ≤ pieces.length) (inside : position < pieces.length) :
    defragmenter.Fits (piece segment pieces position).tcpmigHdr := by
  intro last _
  have next : (piece segment pieces position).tcpmigHdr.flagNextFragment =
    decide (position + 1 < pieces.length) := rfl
  rw [next, decide_eq_false_iff_not] at last
  rw [piece_offset segment few inside]
  omega

/-- A fragment that arrives for the first time: the message if it was the last one missing,
and nothing otherwise. -/
theorem Collects.defragment (collects : Collects pieces stored defragmenter)
    (few : pieces.length ≤ 2 ^ 16) (filled : 1 < pieces.length → pieces.flatten ≠ [])
    (inside : position < pieces.length) (missing : position ∉ stored) :
    (insert position stored = Finset.range pieces.length ∧ ∃ after,
      defragmenter.defragment profile (piece segment pieces position).tcpmigHdr
        (piece segment pieces position).data =
          .ok (after, some (joinedHeader segment, pieces.flatten))) ∨
    (insert position stored ≠ Finset.range pieces.length ∧ ∃ after,
      Collects pieces (insert position stored) after ∧
      defragmenter.defragment profile (piece segment pieces position).tcpmigHdr
        (piece segment pieces position).data = .ok (after, none)) := by
  have offset := piece_offset segment few inside
  have next : (piece segment pieces position).tcpmigHdr.flagNextFragment =
    decide (position + 1 < pieces.length) := rfl
  by_cases single : pieces.length = 1
  · -- a message in one piece is handed out at once
    have first : position = 0 := by omega
    subst first
    obtain ⟨whole, rfl⟩ := List.length_eq_one_iff.mp single
    have nothing : stored = ∅ := by
      apply Finset.subset_empty.mp
      intro other member
      have bound := Finset.mem_range.mp (collects.subset member)
      have zero : other = 0 := by omega
      exact absurd (zero ▸ member) missing
    refine .inl ⟨by rw [nothing]; rfl, defragmenter.reset, ?_⟩
    simp [TcpMigDefragmenter.defragment, piece, TcpMigSegment.fragment, joinedHeader]
  · have stores := piece_stores segment few single inside
    have further := collects.gathered inside missing offset next
    have counted := further.counted (List.length_pos_iff.mp (by omega))
    have fits := piece_fits segment few collects.bounded inside
    have data : (piece segment pieces position).data = pieces.getD position [] := rfl
    rw [data]
    by_cases complete : insert position stored = Finset.range pieces.length
    · have whole := complete ▸ further
      have exact_ : (defragmenter.gathered (piece segment pieces position).tcpmigHdr
          (pieces.getD position [])).currentSize = pieces.flatten.length := by
        rw [whole.size, flatten_length_eq]
      have returned := defragment_completes profile collects.covers fits stores
        (counted.mpr complete) (by rw [whole.complete]; exact filled (by omega))
      rw [whole.complete, exact_, Nat.sub_self, List.replicate_zero, List.append_nil] at returned
      exact .inl ⟨complete, _, returned⟩
    · exact .inr ⟨complete, _, further, defragment_waits profile collects.covers fits stores
        fun reached => complete (counted.mp reached)⟩

/-- What a defragmenter returns on one fragment after the other. -/
def feed (profile : Profile) : TcpMigDefragmenter → List TcpMigSegment →
    Checked (List (Option (TcpMigHeader × Buffer)))
  | _, [] => .ok []
  | defragmenter, fragment :: later => do
    let (defragmenter, whole) ← defragmenter.defragment profile fragment.tcpmigHdr fragment.data
    let others ← defragmenter.feed profile later
    .ok (whole :: others)

/-- The positions that are missing may arrive in any order. -/
theorem Collects.feed {positions : List Nat} (collects : Collects pieces stored defragmenter)
    (few : pieces.length ≤ 2 ^ 16) (filled : 1 < pieces.length → pieces.flatten ≠ [])
    (distinct : positions.Nodup)
    (missing : ∀ position, position ∈ positions ↔ position < pieces.length ∧ position ∉ stored)
    (something : positions ≠ []) :
    defragmenter.feed profile (positions.map (piece segment pieces)) =
      .ok (List.replicate (positions.length - 1) none ++
        [some (joinedHeader segment, pieces.flatten)]) := by
  induction positions generalizing stored defragmenter with
  | nil => exact absurd rfl something
  | cons position later inductionHypothesis =>
    obtain ⟨inside, absent⟩ := (missing position).mp List.mem_cons_self
    obtain ⟨fresh, distinct⟩ := List.nodup_cons.mp distinct
    have remaining (other : Nat) :
        other ∈ later ↔ other < pieces.length ∧ other ∉ insert position stored := by
      rw [Finset.mem_insert, not_or]
      constructor
      · intro member
        obtain ⟨bound, unstored⟩ := (missing other).mp (List.mem_cons_of_mem _ member)
        exact ⟨bound, fun same => fresh (same ▸ member), unstored⟩
      · rintro ⟨bound, different, unstored⟩
        obtain same | member := List.mem_cons.mp ((missing other).mpr ⟨bound, unstored⟩)
        · exact absurd same different
        · exact member
    obtain ⟨complete, after, returned⟩ | ⟨incomplete, after, further, returned⟩ :=
      collects.defragment profile segment few filled inside absent
    · have ended : later = [] := by
        apply List.eq_nil_iff_forall_not_mem.mpr
        intro other member
        obtain ⟨bound, unstored⟩ := (remaining other).mp member
        rw [complete] at unstored
        exact unstored (Finset.mem_range.mpr bound)
      subst ended
      simp only [List.map_cons, List.map_nil, TcpMigDefragmenter.feed, returned, bind, Except.bind]
      rfl
    · have more : later ≠ [] := by
        rintro rfl
        apply incomplete
        apply Finset.Subset.antisymm further.subset
        intro other bound
        by_contra unstored
        exact List.not_mem_nil ((remaining other).mpr ⟨Finset.mem_range.mp bound, unstored⟩)
      have others := inductionHypothesis further distinct remaining more
      have count : (position :: later).length - 1 = later.length - 1 + 1 := by
        have positive := List.length_pos_of_ne_nil more
        rw [List.length_cons]
        omega
      simp only [List.map_cons, TcpMigDefragmenter.feed, returned, others, bind, Except.bind]
      rw [count, List.replicate_succ, List.cons_append]

end TcpMigDefragmenter

namespace TcpMigSegment

open TcpMigDefragmenter

variable (profile : Profile) (segment : TcpMigSegment)

/-- The chunks of a message, numbered, are its pieces. -/
theorem zipIdx_map_fragment (pieces : List Buffer) :
    pieces.zipIdx.map (segment.fragment pieces.length) =
      (List.range pieces.length).map (piece segment pieces) := by
  refine List.ext_getElem (by simp) fun position within within' => ?_
  have inside : position < pieces.length := by simpa using within
  simp [piece, List.getElem?_eq_getElem inside]

/-- Fragmentation round trip. A payload of fewer than `2 ^ 16` fragments is cut into
fragments of at most `MAX_FRAGMENT_SIZE` bytes; a fresh defragmenter that is fed each of
them once, in any order, returns nothing but for the last one fed, with which it returns
the payload and a header without fragment fields.

Proof: the fragments are the pieces of the payload, in the order of their offsets, so
that any order of the fragments is an order of the positions. `Collects` says after each
of them which pieces are held; the one that completes them empties the defragmenter and
returns their concatenation. -/
theorem fragmentation_round_trip
    (few : segment.data.length ≤ MAX_FRAGMENT_SIZE * (2 ^ 16 - 1)) :
    ∃ sent, segment.fragments profile = .ok sent ∧
      (∀ fragment ∈ sent, fragment.data.length ≤ MAX_FRAGMENT_SIZE) ∧
      ∀ order : List TcpMigSegment, order.Perm sent →
        TcpMigDefragmenter.new.feed profile order = .ok (List.replicate (sent.length - 1) none ++
          [some ({ segment.tcpmigHdr with flagNextFragment := false, fragmentOffset := 0 },
            segment.data)]) := by
  have count : (chunks MAX_FRAGMENT_SIZE segment.data).length ≤ 2 ^ 16 - 1 :=
    chunks_length_le (by decide) few
  generalize cut : chunks MAX_FRAGMENT_SIZE segment.data = pieces at count
  have whole : pieces.flatten = segment.data := by
    rw [← cut]
    exact chunks_flatten _ _
  have sends := segment.fragments_eq profile (by rw [cut]; omega)
  rw [cut, zipIdx_map_fragment] at sends
  have filled : 1 < pieces.length → pieces.flatten ≠ [] := by
    intro several nothing
    rw [whole] at nothing
    rw [← cut, nothing, chunks_short (Nat.zero_le _)] at several
    exact Nat.lt_irrefl _ several
  refine ⟨_, sends, ?_, ?_⟩
  · intro fragment member
    obtain ⟨position, within, rfl⟩ := List.mem_map.mp member
    have inside := List.mem_range.mp within
    have short := chunks_size (by decide : 0 < MAX_FRAGMENT_SIZE) segment.data pieces[position]
      (by rw [cut]; exact List.getElem_mem inside)
    simpa [piece, fragment, List.getElem?_eq_getElem inside] using short
  · intro order permuted
    -- the offsets in the order of arrival
    let positions := order.map fun fragment => fragment.tcpmigHdr.fragmentOffset.toNat
    have offset {position : Nat} (inside : position < pieces.length) :=
      piece_offset segment (by omega : pieces.length ≤ 2 ^ 16) inside
    have ranged : positions.Perm (List.range pieces.length) := by
      have mapped := permuted.map fun fragment => fragment.tcpmigHdr.fragmentOffset.toNat
      rw [List.map_map] at mapped
      have identity : (List.range pieces.length).map
          ((fun fragment => fragment.tcpmigHdr.fragmentOffset.toNat) ∘ piece segment pieces) =
            List.range pieces.length := by
        refine (List.map_congr_left fun position within => ?_).trans (List.map_id _)
        exact offset (List.mem_range.mp within)
      rw [identity] at mapped
      exact mapped
    have arrived : order = positions.map (piece segment pieces) := by
      rw [List.map_map]
      refine ((List.map_congr_left fun fragment member => ?_).trans (List.map_id _)).symm
      obtain ⟨position, within, rfl⟩ := List.mem_map.mp (permuted.mem_iff.mp member)
      exact congrArg (piece segment pieces) (offset (List.mem_range.mp within))
    have length : order.length = positions.length := by simp [positions]
    have positive : 0 < pieces.length := by
      rw [← cut]
      exact List.length_pos_of_ne_nil (chunks_ne_nil _ _)
    have fed := (Collects.new pieces).feed profile segment (by omega) filled
      (ranged.nodup_iff.mpr List.nodup_range)
      (by intro position; simp [ranged.mem_iff])
      (by
        intro nothing
        have empty := ranged.length_eq
        rw [nothing, List.length_range, List.length_nil] at empty
        omega)
    rw [← arrived, ← length, permuted.length_eq, whole] at fed
    exact fed

/-- A message of three fragments, the last of which arrives first. -/
theorem fragmentation_round_trip_reversed :
    let segment : TcpMigSegment := ⟨1#48, 2#48, ⟨3#32, 4#32⟩,
      .new ⟨3#32, 80⟩ ⟨5#32, 4321⟩ 0 .connectionState 80 80, List.replicate 3000 7⟩
    ∃ sent, segment.fragments .dev = .ok sent ∧
      TcpMigDefragmenter.new.feed .dev sent.reverse =
        .ok [none, none, some (segment.tcpmigHdr, List.replicate 3000 7)] := by
  intro segment
  obtain ⟨sent, sends, -, returns⟩ := fragmentation_round_trip .dev segment (by
    rw [List.length_replicate]
    decide)
  have three : (segment.fragments .dev).toOption.map List.length = some 3 := by decide +kernel
  rw [sends] at three
  have length : sent.length = 3 := Option.some.inj three
  have fed := returns sent.reverse (List.reverse_perm sent)
  rw [length] at fed
  exact ⟨sent, sends, fed⟩

end TcpMigSegment

end Capybara
