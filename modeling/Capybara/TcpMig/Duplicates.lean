import Capybara.TcpMig.Collecting

/-!
# Fragments that arrive again

A defragmenter counts arrivals and not positions, and the size it has counted survives
its reset. It hands out a payload with the arrival that makes their number that of the
fragments, provided that the last fragment is among them; what arrived twice until then
is a gap and zeros at the end, and so is all that was counted before the reset. A
payload of a single fragment is never stored.

So deliveries are harmless exactly when the fragments of a payload arrive once each
before any of them arrives again, when those that arrive again never complete the
count, and when nothing but single fragments arrives after a payload of several.
-/

namespace Capybara

open Chunks

namespace TcpMigDefragmenter

variable {pieces : List Buffer} {stale position : Nat} {arrived order : List Nat}
  {defragmenter : TcpMigDefragmenter} (profile : Profile) (segment : TcpMigSegment)

/-! ## What is handed out -/

/-- The payloads that are handed out on one fragment after the other, and the defragmenter
afterwards. -/
def receiveAll (profile : Profile) : TcpMigDefragmenter → List TcpMigSegment →
    Checked (TcpMigDefragmenter × List Buffer)
  | defragmenter, [] => .ok (defragmenter, [])
  | defragmenter, fragment :: later => do
    let (defragmenter, whole) ← defragmenter.defragment profile fragment.tcpmigHdr fragment.data
    let (defragmenter, others) ← defragmenter.receiveAll profile later
    .ok (defragmenter, (whole.map Prod.snd).toList ++ others)

/-- The fragments at the given positions, in the order in which they are delivered. -/
def delivered (sent : List TcpMigSegment) (order : List Nat) : List TcpMigSegment :=
  order.filterMap fun position => sent[position]?

/-- A fresh defragmenter hands out nothing but the first payload on its deliveries; and if
it does hand it out, then it hands out the second payload on those that follow, and nothing
but that. -/
def Tolerates (profile : Profile) (first second : Buffer) (deliveries later : List TcpMigSegment) :
    Prop :=
  ∃ after handed, new.receiveAll profile deliveries = .ok (after, handed) ∧
    (∀ buffer ∈ handed, buffer = first) ∧
    (handed ≠ [] → ∃ last handed', after.receiveAll profile later = .ok (last, handed') ∧
      handed' ≠ [] ∧ ∀ buffer ∈ handed', buffer = second)

/-- The last fragment is among the first arrivals, as many as there are fragments. -/
def Completes (count : Nat) (order : List Nat) : Prop :=
  count ≤ order.length ∧ count - 1 ∈ order.take count

/-- The fragments arrive once each before any of them arrives again, and what arrives
again does not complete the count. -/
def OnceEach (count : Nat) (order : List Nat) : Prop :=
  (order.take count).Nodup ∧ ¬ Completes count (order.drop count)

/-- Deliveries of two payloads, of given numbers of fragments, that the defragmenter handles. -/
def Orderly (count count' : Nat) (order order' : List Nat) : Prop :=
  (count = 1 ∧ (count' = 1 ∨ OnceEach count' order')) ∨
  (count ≠ 1 ∧ (¬ Completes count order ∨ (OnceEach count order ∧ count' = 1)))

instance (count : Nat) (order : List Nat) : Decidable (Completes count order) :=
  inferInstanceAs (Decidable (_ ∧ _))

/-- The first fragment is taken in, and then the others. -/
theorem receiveAll_cons {fragment : TcpMigSegment} {later : List TcpMigSegment}
    {next : TcpMigDefragmenter} {whole : Option (TcpMigHeader × Buffer)}
    (returned : defragmenter.defragment profile fragment.tcpmigHdr fragment.data = .ok (next, whole)) :
    defragmenter.receiveAll profile (fragment :: later) = (do
      let (last, others) ← next.receiveAll profile later
      .ok (last, (whole.map Prod.snd).toList ++ others)) := by
  simp only [receiveAll, returned, bind, Except.bind]

/-- Deliveries one after the other. -/
theorem receiveAll_append {earlier later : List TcpMigSegment} {next : TcpMigDefragmenter}
    {handed : List Buffer}
    (returned : defragmenter.receiveAll profile earlier = .ok (next, handed)) :
    defragmenter.receiveAll profile (earlier ++ later) = (do
      let (last, others) ← next.receiveAll profile later
      .ok (last, handed ++ others)) := by
  induction earlier generalizing defragmenter handed with
  | nil =>
    cases returned
    rw [List.nil_append]
    cases next.receiveAll profile later with
    | error fault => rfl
    | ok result => rfl
  | cons fragment earlier inductionHypothesis =>
    obtain ⟨⟨middle, whole⟩, arrives, returned⟩ := bind_ok.mp returned
    obtain ⟨⟨last, others⟩, continues, returned⟩ := bind_ok.mp returned
    cases returned
    rw [List.cons_append, receiveAll_cons profile arrives, inductionHypothesis continues]
    cases next.receiveAll profile later with
    | error fault => rfl
    | ok result => simp only [bind, Except.bind, List.append_assoc]

/-! ## What has arrived since the last reset -/

/-- The size of what arrived again, the newest arrival first. -/
def repeated (pieces : List Buffer) : List Nat → Nat
  | [] => 0
  | position :: earlier =>
    (if position ∈ earlier then (pieces.getD position []).length else 0) + repeated pieces earlier

/-- What has arrived since the last reset, the newest first: every position holds its
piece, and the size has been counted for each arrival, on top of what was counted before. -/
structure Gathers (pieces : List Buffer) (stale : Nat) (arrived : List Nat)
    (defragmenter : TcpMigDefragmenter) : Prop where
  fragments : ∀ position, defragmenter.fragments.getD position [] =
    if position ∈ arrived then pieces.getD position [] else []
  reached : ∀ position ∈ arrived, position < defragmenter.fragments.length
  bounded : defragmenter.fragments.length ≤ pieces.length
  total : defragmenter.totalFragments =
    if pieces.length - 1 ∈ arrived then some pieces.length else none
  count : defragmenter.currentFragments = arrived.length
  size : defragmenter.currentSize =
    defragmenter.fragments.flatten.length + (repeated pieces arrived + stale)

/-- A new defragmenter has gathered nothing. -/
theorem Gathers.new (pieces : List Buffer) : Gathers pieces 0 [] .new where
  fragments := by simp [TcpMigDefragmenter.new]
  reached := by simp
  bounded := Nat.zero_le _
  total := by simp [TcpMigDefragmenter.new]
  count := rfl
  size := rfl

/-- Only the size survives a reset. -/
theorem Gathers.reset (pieces : List Buffer) (defragmenter : TcpMigDefragmenter) :
    Gathers pieces defragmenter.currentSize [] defragmenter.reset where
  fragments := by simp [TcpMigDefragmenter.reset]
  reached := by simp
  bounded := Nat.zero_le _
  total := by simp [TcpMigDefragmenter.reset]
  count := rfl
  size := by simp [TcpMigDefragmenter.reset, repeated]

/-- Only a list without repetition has nothing that arrived again. -/
theorem repeated_eq_zero (filled : ∀ piece ∈ pieces, piece ≠ [])
    (inside : ∀ position ∈ arrived, position < pieces.length) :
    repeated pieces arrived = 0 ↔ arrived.Nodup := by
  induction arrived with
  | nil => simp [repeated]
  | cons position earlier inductionHypothesis =>
    have rest := inductionHypothesis fun other member => inside other (List.mem_cons_of_mem _ member)
    have within := inside position List.mem_cons_self
    have something : 0 < (pieces.getD position []).length := by
      rw [List.getD_eq_getElem?_getD, List.getElem?_eq_getElem within, Option.getD_some]
      exact List.length_pos_of_ne_nil (filled _ (List.getElem_mem within))
    rw [List.nodup_cons, ← rest, repeated]
    by_cases again : position ∈ earlier
    · rw [if_pos again]
      constructor
      · intro none
        omega
      · rintro ⟨fresh, -⟩
        exact absurd again fresh
    · rw [if_neg again, Nat.zero_add]
      exact ⟨fun none => ⟨again, none⟩, fun both => both.2⟩

/-- What has been gathered covers its fragments. -/
theorem Gathers.covers (gathers : Gathers pieces stale arrived defragmenter) :
    defragmenter.Covers := by
  rw [Covers, gathers.size]
  exact Nat.le_add_right _ _

/-- A fragment takes its place, also if it arrives again. -/
theorem Gathers.gathered {hdr : TcpMigHeader} (gathers : Gathers pieces stale arrived defragmenter)
    (inside : position < pieces.length) (offset : hdr.fragmentOffset.toNat = position)
    (next : hdr.flagNextFragment = decide (position + 1 < pieces.length)) :
    Gathers pieces stale (position :: arrived)
      (defragmenter.gathered hdr (pieces.getD position [])) where
  fragments := by
    simp only [List.mem_cons]
    exact gathered_fragments offset gathers.fragments
  reached := by
    simp only [List.mem_cons]
    exact gathered_reached offset gathers.reached
  bounded := gathered_bounded offset inside gathers.bounded
  total := by
    simp only [List.mem_cons]
    exact gathered_total offset inside next gathers.total
  count := by
    simp only [TcpMigDefragmenter.gathered, gathers.count, List.length_cons]
  size := by
    have stored := store_length_add defragmenter.fragments position (pieces.getD position [])
    simp only [TcpMigDefragmenter.gathered, offset, gathers.size, repeated]
    rw [gathers.fragments] at stored
    by_cases again : position ∈ arrived
    · rw [if_pos again] at stored ⊢
      omega
    · rw [if_neg again, List.length_nil] at stored
      rw [if_neg again]
      omega

/-- Once every position is stored the fragments are the pieces. -/
theorem Gathers.complete (gathers : Gathers pieces stale arrived defragmenter)
    (every : ∀ position < pieces.length, position ∈ arrived) : defragmenter.fragments = pieces :=
  fragments_complete gathers.fragments gathers.reached gathers.bounded every

/-- As many arrivals as there are positions, none of them twice, are all of them. -/
theorem every_arrived (inside : ∀ position ∈ arrived, position < pieces.length)
    (distinct : arrived.Nodup) (count : arrived.length = pieces.length) :
    ∀ position < pieces.length, position ∈ arrived := by
  intro position within
  have subset : arrived ⊆ List.range pieces.length := fun other member =>
    List.mem_range.mpr (inside other member)
  have permuted : arrived.Perm (List.range pieces.length) :=
    (distinct.subperm subset).perm_of_length_le (by rw [List.length_range, count])
  exact permuted.mem_iff.mpr (List.mem_range.mpr within)

/-- No fragment of a message of several pieces is taken for a whole message. -/
theorem pieces_store (few : pieces.length ≤ 2 ^ 16) (several : pieces.length ≠ 1)
    (inside : ∀ position ∈ order, position < pieces.length) :
    ∀ fragment ∈ order.map (piece segment pieces),
      ¬ (fragment.tcpmigHdr.flagNextFragment = false ∧ fragment.tcpmigHdr.fragmentOffset = 0) := by
  intro fragment member
  obtain ⟨position, within, rfl⟩ := List.mem_map.mp member
  exact piece_stores segment few several (inside position within)

/-- One fragment of several. It completes the count when the last fragment has arrived and
as many as there are. What is handed out then ends in as many zeros as were counted too
much. -/
theorem Gathers.defragment (gathers : Gathers pieces stale arrived defragmenter)
    (few : pieces.length ≤ 2 ^ 16) (several : pieces.length ≠ 1)
    (filled : ∀ piece ∈ pieces, piece ≠ []) (inside : position < pieces.length) :
    if arrived.length + 1 = pieces.length ∧ pieces.length - 1 ∈ position :: arrived then
      ∃ after stored, defragmenter.defragment profile (piece segment pieces position).tcpmigHdr
          (piece segment pieces position).data = .ok (after, some (joinedHeader segment,
            stored.flatten ++ List.replicate (repeated pieces (position :: arrived) + stale) 0)) ∧
        Gathers pieces (stored.flatten.length + (repeated pieces (position :: arrived) + stale)) []
          after ∧
        stored.flatten ≠ [] ∧
        ((∀ other < pieces.length, other ∈ position :: arrived) → stored = pieces)
    else
      ∃ after, defragmenter.defragment profile (piece segment pieces position).tcpmigHdr
          (piece segment pieces position).data = .ok (after, none) ∧
        Gathers pieces stale (position :: arrived) after := by
  have offset := piece_offset segment few inside
  have next : (piece segment pieces position).tcpmigHdr.flagNextFragment =
    decide (position + 1 < pieces.length) := rfl
  have stores := piece_stores segment few several inside
  have fits := piece_fits segment few gathers.bounded inside
  have further := gathers.gathered inside offset next
  have data : (piece segment pieces position).data = pieces.getD position [] := rfl
  rw [data]
  have waits := @defragment_waits _ _ (pieces.getD position []) profile gathers.covers fits stores
  have completes := @defragment_completes _ _ (pieces.getD position []) profile gathers.covers fits
    stores
  generalize defragmenter.gathered (piece segment pieces position).tcpmigHdr
    (pieces.getD position []) = reached at further waits completes
  -- the piece that has just arrived is stored
  have something : reached.fragments.flatten ≠ [] := by
    intro nothing
    have held := further.fragments position
    have within := further.reached position List.mem_cons_self
    rw [if_pos List.mem_cons_self, List.getD_eq_getElem?_getD, List.getElem?_eq_getElem within,
      Option.getD_some, List.getD_eq_getElem?_getD, List.getElem?_eq_getElem inside,
      Option.getD_some] at held
    have empty := List.flatten_eq_nil_iff.mp nothing _ (List.getElem_mem within)
    exact filled _ (List.getElem_mem inside) (held.symm.trans empty)
  have counted : reached.totalFragments = some reached.currentFragments ↔
      arrived.length + 1 = pieces.length ∧ pieces.length - 1 ∈ position :: arrived := by
    rw [further.total, further.count, List.length_cons]
    by_cases last : pieces.length - 1 ∈ position :: arrived
    · rw [if_pos last, Option.some.injEq]
      exact ⟨fun same => ⟨same.symm, last⟩, fun both => both.1.symm⟩
    · rw [if_neg last]
      exact ⟨nofun, fun both => absurd both.2 last⟩
  split
  · rename_i complete
    have returned := completes (counted.mpr complete) something
    rw [further.size, Nat.add_sub_cancel_left] at returned
    refine ⟨reached.reset, reached.fragments, returned, ?_, something, further.complete⟩
    rw [← further.size]
    exact .reset pieces reached
  · rename_i incomplete
    exact ⟨reached, waits fun same => incomplete (counted.mp same), further⟩

/-! ## A payload of several fragments -/

section Several

variable (few : pieces.length ≤ 2 ^ 16) (several : pieces.length ≠ 1)
  (filled : ∀ piece ∈ pieces, piece ≠ [])

include few several filled

/-- Until the count is completed nothing is handed out. By induction on the deliveries;
what has arrived in front of them counts. -/
theorem Gathers.quiet (gathers : Gathers pieces stale arrived defragmenter)
    (inside : ∀ position ∈ order, position < pieces.length)
    (incomplete : pieces.length ≤ arrived.length ∨
      ¬ Completes pieces.length (arrived.reverse ++ order)) :
    ∃ after, defragmenter.receiveAll profile (order.map (piece segment pieces)) = .ok (after, []) ∧
      Gathers pieces stale (order.reverse ++ arrived) after := by
  induction order generalizing arrived defragmenter with
  | nil => exact ⟨defragmenter, rfl, gathers⟩
  | cons position later inductionHypothesis =>
    have step := gathers.defragment profile segment few several filled
      (inside position List.mem_cons_self)
    have waits : ¬ (arrived.length + 1 = pieces.length ∧
        pieces.length - 1 ∈ position :: arrived) := by
      rintro ⟨count, last⟩
      obtain many | incomplete := incomplete
      · omega
      · have first : (arrived.reverse ++ position :: later).take pieces.length =
            (position :: arrived).reverse := by
          rw [← count, List.reverse_cons, List.append_cons]
          exact List.take_left' (by simp)
        refine incomplete ⟨?_, ?_⟩
        · simp only [List.length_append, List.length_reverse, List.length_cons]
          omega
        · rw [first, List.mem_reverse]
          exact last
    rw [if_neg waits] at step
    obtain ⟨next, returned, further⟩ := step
    have still : pieces.length ≤ (position :: arrived).length ∨
        ¬ Completes pieces.length ((position :: arrived).reverse ++ later) := by
      rw [List.reverse_cons, List.append_assoc, List.singleton_append, List.length_cons]
      exact incomplete.imp Nat.le_succ_of_le id
    obtain ⟨after, others, gathered⟩ := inductionHypothesis further
      (fun other member => inside other (List.mem_cons_of_mem _ member)) still
    refine ⟨after, ?_, ?_⟩
    · rw [List.map_cons, receiveAll_cons profile returned, others]
      rfl
    · rw [List.reverse_cons, List.append_assoc]
      exact gathered

/-- The arrival that completes the count makes the defragmenter hand out something, and what
was counted for it is counted for all that follows. -/
theorem Gathers.first (gathers : Gathers pieces stale [] defragmenter)
    (inside : ∀ position ∈ order, position < pieces.length)
    (completes : Completes pieces.length order) :
    ∃ after stored, defragmenter.receiveAll profile
        ((order.take pieces.length).map (piece segment pieces)) = .ok (after, [stored.flatten ++
          List.replicate (repeated pieces (order.take pieces.length).reverse + stale) 0]) ∧
      stored.flatten ≠ [] ∧
      Gathers pieces (stored.flatten.length +
        (repeated pieces (order.take pieces.length).reverse + stale)) [] after ∧
      ((order.take pieces.length).Nodup → stored = pieces) := by
  obtain ⟨enough, last⟩ := completes
  have count : (order.take pieces.length).length = pieces.length := List.length_take_of_le enough
  have within : ∀ position ∈ order.take pieces.length, position < pieces.length :=
    fun position member => inside position (List.mem_of_mem_take member)
  generalize order.take pieces.length = round at last count within
  obtain rfl | ⟨earlier, position, rfl⟩ := List.eq_nil_or_concat round
  · exact absurd last List.not_mem_nil
  rw [List.concat_eq_append] at *
  rw [List.length_append, List.length_singleton] at count
  have incomplete : ¬ Completes pieces.length ([].reverse ++ earlier) := by
    rintro ⟨long, -⟩
    rw [List.reverse_nil, List.nil_append] at long
    omega
  obtain ⟨middle, quiet, gathered⟩ := gathers.quiet profile segment few several filled
    (fun other member => within other (List.mem_append_left _ member)) (.inr incomplete)
  rw [List.append_nil] at gathered
  have step := gathered.defragment profile segment few several filled
    (within position (List.mem_append_right _ List.mem_cons_self))
  have reversed : (earlier ++ [position]).reverse = position :: earlier.reverse := by simp
  have complete : earlier.reverse.length + 1 = pieces.length ∧
      pieces.length - 1 ∈ position :: earlier.reverse := by
    rw [List.length_reverse, ← reversed, List.mem_reverse]
    exact ⟨count, last⟩
  rw [if_pos complete] at step
  obtain ⟨after, stored, returned, fresh, something, whole⟩ := step
  refine ⟨after, stored, ?_, something, ?_, ?_⟩
  · rw [List.map_append, List.map_singleton, receiveAll_append profile quiet,
      receiveAll_cons profile returned, reversed]
    rfl
  · rw [reversed]
    exact fresh
  · intro distinct
    refine whole fun other bound => ?_
    rw [← reversed, List.mem_reverse]
    refine every_arrived within distinct ?_ other bound
    rw [List.length_append, List.length_singleton, count]

end Several

/-! ## More has been counted than is stored -/

/-- More has been counted than is stored. -/
def Padded (defragmenter : TcpMigDefragmenter) : Prop :=
  defragmenter.fragments.flatten.length < defragmenter.currentSize

/-- A fragment that came twice, or was left over, makes the message too long: it is padded. -/
theorem Gathers.padded (gathers : Gathers pieces stale arrived defragmenter)
    (more : 0 < repeated pieces arrived + stale) : defragmenter.Padded := by
  rw [Padded, gathers.size]
  omega

/-- A message that is padded ends with a zero. -/
theorem getLast?_padded (stored : Buffer) {count : Nat} (more : 0 < count) :
    (stored ++ List.replicate count (0 : UInt8)).getLast? = some 0 := by
  obtain ⟨count, rfl⟩ := Nat.exists_eq_succ_of_ne_zero (Nat.pos_iff_ne_zero.mp more)
  rw [List.replicate_succ', ← List.append_assoc, List.getLast?_concat]

/-- From then on a payload of several fragments ends in a zero, whatever it was. -/
theorem Padded.defragment {hdr : TcpMigHeader} {buf : Buffer} {after : TcpMigDefragmenter}
    {whole : Option (TcpMigHeader × Buffer)} (padded : defragmenter.Padded)
    (stores : ¬ (hdr.flagNextFragment = false ∧ hdr.fragmentOffset = 0))
    (returned : defragmenter.defragment profile hdr buf = .ok (after, whole)) :
    after.Padded ∧ ∀ buffer ∈ whole.map Prod.snd, buffer.getLast? = some 0 := by
  unfold TcpMigDefragmenter.defragment at returned
  rw [if_neg stores] at returned
  obtain ⟨next, gathers, returned⟩ := bind_ok.mp returned
  obtain ⟨total, -, gathers⟩ := bind_ok.mp gathers
  have more : next.Padded := by
    cases gathers
    have stored := store_length_le defragmenter.fragments hdr.fragmentOffset.toNat buf
    exact Nat.lt_of_le_of_lt stored (Nat.add_lt_add_right padded _)
  unfold release at returned
  split at returned
  · cases returned
    exact ⟨more, by simp⟩
  · rw [join_eq (Nat.ne_of_gt (Nat.zero_lt_of_lt more)) (Nat.le_of_lt more)] at returned
    cases returned
    refine ⟨Nat.zero_lt_of_lt more, ?_⟩
    intro buffer handed
    obtain rfl := Option.mem_some_iff.mp handed
    exact getLast?_padded _ (Nat.sub_pos_of_lt more)

/-- So does everything that is handed out later. -/
theorem Padded.receiveAll {after : TcpMigDefragmenter} {handed : List Buffer}
    {deliveries : List TcpMigSegment} (padded : defragmenter.Padded)
    (stores : ∀ fragment ∈ deliveries,
      ¬ (fragment.tcpmigHdr.flagNextFragment = false ∧ fragment.tcpmigHdr.fragmentOffset = 0))
    (returned : defragmenter.receiveAll profile deliveries = .ok (after, handed)) :
    after.Padded ∧ ∀ buffer ∈ handed, buffer.getLast? = some 0 := by
  induction deliveries generalizing defragmenter handed with
  | nil =>
    cases returned
    exact ⟨padded, by simp⟩
  | cons fragment later inductionHypothesis =>
    obtain ⟨⟨next, whole⟩, arrives, returned⟩ := bind_ok.mp returned
    obtain ⟨⟨last, others⟩, continues, returned⟩ := bind_ok.mp returned
    cases returned
    obtain ⟨further, zero⟩ := padded.defragment profile (stores _ List.mem_cons_self) arrives
    obtain ⟨ends, zeros⟩ := inductionHypothesis further
      (fun other member => stores other (List.mem_cons_of_mem _ member)) continues
    refine ⟨ends, ?_⟩
    intro buffer member
    obtain first | member := List.mem_append.mp member
    · exact zero buffer (Option.mem_toList.mp first)
    · exact zeros buffer member

/-- A payload of a single fragment is handed out with every arrival, and not stored. -/
theorem receiveAll_single (single : pieces.length = 1) (inside : ∀ position ∈ order, position = 0)
    (something : order ≠ []) :
    defragmenter.receiveAll profile (order.map (piece segment pieces)) =
      .ok (defragmenter.reset, List.replicate order.length pieces.flatten) := by
  obtain ⟨whole, rfl⟩ := List.length_eq_one_iff.mp single
  induction order generalizing defragmenter with
  | nil => exact absurd rfl something
  | cons position later inductionHypothesis =>
    have first := inside position List.mem_cons_self
    subst first
    have returned : defragmenter.defragment profile (piece segment [whole] 0).tcpmigHdr
        (piece segment [whole] 0).data =
          .ok (defragmenter.reset, some ((piece segment [whole] 0).tcpmigHdr, whole)) := by
      simp [TcpMigDefragmenter.defragment, piece, TcpMigSegment.fragment]
    rw [List.map_cons, receiveAll_cons profile returned]
    by_cases ended : later = []
    · subst ended
      simp [receiveAll, bind, Except.bind]
    · rw [@inductionHypothesis defragmenter.reset
        (fun other member => inside other (List.mem_cons_of_mem _ member)) ended]
      simp [bind, Except.bind, List.replicate_succ, reset]

/-! ## One payload -/

/-- A first round of arrivals without repetition contains the last fragment. -/
theorem OnceEach.completes {count : Nat} (once : OnceEach count order) (positive : 0 < count)
    (each : ∀ position, position ∈ order ↔ position < count) : Completes count order := by
  have enough : count ≤ order.length := by
    have subset : List.range count ⊆ order := fun position member =>
      (each position).mpr (List.mem_range.mp member)
    have most := (List.nodup_range.subperm subset).length_le
    rwa [List.length_range] at most
  refine ⟨enough, ?_⟩
  have every := @every_arrived (List.replicate count []) (order.take count)
    (fun position member => by
      rw [List.length_replicate]
      exact (each position).mp (List.mem_of_mem_take member))
    once.1 (by rw [List.length_replicate, List.length_take_of_le enough])
  exact every _ (by rw [List.length_replicate]; omega)

section Several

variable (few : pieces.length ≤ 2 ^ 16) (several : pieces.length ≠ 1)
  (filled : ∀ piece ∈ pieces, piece ≠ [])

include few several filled

/-- A payload whose fragments come once each is handed out once. -/
theorem Gathers.handed_of_once (gathers : Gathers pieces 0 [] defragmenter)
    (inside : ∀ position ∈ order, position < pieces.length)
    (once : OnceEach pieces.length order) (completes : Completes pieces.length order) :
    ∃ after, defragmenter.receiveAll profile (order.map (piece segment pieces)) =
      .ok (after, [pieces.flatten]) := by
  obtain ⟨middle, stored, returned, -, fresh, whole⟩ :=
    gathers.first profile segment few several filled inside completes
  have nothing : repeated pieces (order.take pieces.length).reverse = 0 := by
    refine (repeated_eq_zero filled fun position member => ?_).mpr (List.nodup_reverse.mpr once.1)
    exact inside position (List.mem_of_mem_take (List.mem_reverse.mp member))
  rw [nothing, whole once.1] at returned
  obtain ⟨after, others, -⟩ := fresh.quiet profile segment few several filled
    (fun position member => inside position (List.mem_of_mem_drop member)) (.inr once.2)
  refine ⟨after, ?_⟩
  rw [← List.take_append_drop pieces.length order, List.map_append,
    receiveAll_append profile returned, others]
  simp [bind, Except.bind]

/-- What completes the count is handed out. -/
theorem Gathers.handed_of_completes {after : TcpMigDefragmenter} {handed : List Buffer}
    (gathers : Gathers pieces stale [] defragmenter)
    (inside : ∀ position ∈ order, position < pieces.length)
    (completes : Completes pieces.length order)
    (returned : defragmenter.receiveAll profile (order.map (piece segment pieces)) =
      .ok (after, handed)) : handed ≠ [] := by
  obtain ⟨middle, stored, first, -⟩ :=
    gathers.first profile segment few several filled inside completes
  rw [← List.take_append_drop pieces.length order, List.map_append,
    receiveAll_append profile first] at returned
  obtain ⟨⟨last, others⟩, -, returned⟩ := bind_ok.mp returned
  cases returned
  exact List.cons_ne_nil _ _

/-- A payload that does not end in a zero, and is all that is handed out, came once each; and
then more has been counted than is stored. -/
theorem Gathers.once_of_handed {after : TcpMigDefragmenter} {handed : List Buffer}
    (gathers : Gathers pieces 0 [] defragmenter)
    (inside : ∀ position ∈ order, position < pieces.length)
    (ends : pieces.flatten.getLast? ≠ some 0)
    (returned : defragmenter.receiveAll profile (order.map (piece segment pieces)) =
      .ok (after, handed))
    (exact_ : ∀ buffer ∈ handed, buffer = pieces.flatten) (something : handed ≠ []) :
    OnceEach pieces.length order ∧ after.Padded := by
  have completes : Completes pieces.length order := by
    by_contra incomplete
    obtain ⟨last, quiet, -⟩ := gathers.quiet profile segment few several filled inside
      (.inr (by rwa [List.reverse_nil, List.nil_append]))
    rw [quiet] at returned
    cases returned
    exact something rfl
  obtain ⟨middle, stored, first, filled', fresh, -⟩ :=
    gathers.first profile segment few several filled inside completes
  rw [← List.take_append_drop pieces.length order, List.map_append,
    receiveAll_append profile first] at returned
  obtain ⟨⟨last, others⟩, continues, returned⟩ := bind_ok.mp returned
  cases returned
  have padded := fresh.padded (by
    have positive := List.length_pos_of_ne_nil filled'
    rw [repeated]
    omega)
  have stores := pieces_store segment few several
    fun position (member : position ∈ order.drop pieces.length) =>
      inside position (List.mem_of_mem_drop member)
  obtain ⟨further, zeros⟩ := padded.receiveAll profile stores continues
  refine ⟨⟨?_, ?_⟩, further⟩
  · rw [← List.nodup_reverse, ← repeated_eq_zero filled fun position member =>
      inside position (List.mem_of_mem_take (List.mem_reverse.mp member))]
    by_contra again
    have same := exact_ _ (List.mem_append_left _ (List.mem_singleton_self _))
    have zero := getLast?_padded stored.flatten (Nat.pos_of_ne_zero again)
    rw [Nat.add_zero] at same
    rw [same] at zero
    exact ends zero
  · intro again
    have more := fresh.handed_of_completes profile segment few several filled
      (fun position member => inside position (List.mem_of_mem_drop member)) again continues
    obtain ⟨buffer, member⟩ := List.exists_mem_of_ne_nil _ more
    have zero := zeros buffer member
    rw [exact_ buffer (List.mem_append_right _ member)] at zero
    exact ends zero

end Several

/-! ## Two payloads -/

/-- The fragments of a payload are its pieces, and those of several are not empty. -/
theorem fragments_pieces {segment : TcpMigSegment} {sent : List TcpMigSegment}
    (few : segment.data.length ≤ MAX_FRAGMENT_SIZE * (2 ^ 16 - 1))
    (cut : segment.fragments profile = .ok sent) :
    ∃ pieces : List Buffer, sent = (List.range pieces.length).map (piece segment pieces) ∧
      0 < pieces.length ∧ pieces.length ≤ 2 ^ 16 ∧ pieces.flatten = segment.data ∧
      (pieces.length ≠ 1 → ∀ piece ∈ pieces, piece ≠ []) := by
  have count : (chunks MAX_FRAGMENT_SIZE segment.data).length ≤ 2 ^ 16 - 1 :=
    chunks_length_le (by decide) few
  have sends := segment.fragments_eq profile (by omega)
  rw [cut, TcpMigSegment.zipIdx_map_fragment] at sends
  refine ⟨chunks MAX_FRAGMENT_SIZE segment.data, Except.ok.inj sends,
    List.length_pos_of_ne_nil (chunks_ne_nil _ _), by omega, chunks_flatten _ _, ?_⟩
  intro several
  refine chunks_filled (by decide) fun nothing => several ?_
  rw [nothing, chunks_short (Nat.zero_le _), List.length_singleton]

/-- The fragments at positions of the payload. -/
theorem delivered_pieces (inside : ∀ position ∈ order, position < pieces.length) :
    delivered ((List.range pieces.length).map (piece segment pieces)) order =
      order.map (piece segment pieces) := by
  induction order with
  | nil => rfl
  | cons position later inductionHypothesis =>
    have others := inductionHypothesis fun other member => inside other (List.mem_cons_of_mem _ member)
    have within := inside position List.mem_cons_self
    have found : ((List.range pieces.length).map (piece segment pieces))[position]? =
        some (piece segment pieces position) := by
      rw [List.getElem?_map, List.getElem?_range within, Option.map_some]
    rw [delivered, List.filterMap_cons_some found, ← delivered, others, List.map_cons]

section Payloads

variable {pieces' : List Buffer} {order' : List Nat} (first second : TcpMigSegment)
  (few : pieces.length ≤ 2 ^ 16) (few' : pieces'.length ≤ 2 ^ 16)
  (filled : pieces.length ≠ 1 → ∀ piece ∈ pieces, piece ≠ [])
  (filled' : pieces'.length ≠ 1 → ∀ piece ∈ pieces', piece ≠ [])
  (positive : 0 < pieces.length) (positive' : 0 < pieces'.length)
  (each : ∀ position, position ∈ order ↔ position < pieces.length)
  (each' : ∀ position, position ∈ order' ↔ position < pieces'.length)

include positive each in
/-- Every arrival of a payload of a single fragment hands it out. -/
theorem receiveAll_one (one : pieces.length = 1) :
    defragmenter.receiveAll profile (order.map (piece segment pieces)) =
      .ok (defragmenter.reset, List.replicate order.length pieces.flatten) ∧
      List.replicate order.length pieces.flatten ≠ [] := by
  have something : order ≠ [] := List.ne_nil_of_mem ((each 0).mpr positive)
  refine ⟨receiveAll_single profile segment one ?_ something, ?_⟩
  · intro position member
    have bound := (each position).mp member
    omega
  · rw [ne_eq, List.replicate_eq_nil_iff]
    exact (List.length_pos_of_ne_nil something).ne'

include few few' filled filled' positive positive' each each'

/-- Orderly deliveries are harmless. -/
theorem Orderly.tolerates (orderly : Orderly pieces.length pieces'.length order order') :
    Tolerates profile pieces.flatten pieces'.flatten (order.map (piece first pieces))
      (order'.map (piece second pieces')) := by
  obtain ⟨one, rest⟩ | ⟨more, incomplete | ⟨once, one'⟩⟩ := orderly
  · obtain ⟨returned, -⟩ := @receiveAll_one pieces order new profile first positive each one
    refine ⟨_, _, returned, fun buffer => List.eq_of_mem_replicate, fun _ => ?_⟩
    by_cases one' : pieces'.length = 1
    · obtain ⟨returned', hands'⟩ := receiveAll_one profile second positive' each' one'
      exact ⟨_, _, returned', hands', fun buffer => List.eq_of_mem_replicate⟩
    · have once := rest.resolve_left one'
      obtain ⟨after, returned'⟩ := (Gathers.new pieces').handed_of_once profile second few' one'
        (filled' one') (fun position => (each' position).mp) once (once.completes positive' each')
      exact ⟨_, _, returned', List.cons_ne_nil _ _, fun buffer => List.eq_of_mem_singleton⟩
  · obtain ⟨after, quiet, -⟩ := (Gathers.new pieces).quiet profile first few more (filled more)
      (fun position => (each position).mp) (.inr (by rwa [List.reverse_nil, List.nil_append]))
    exact ⟨_, _, quiet, by simp, fun impossible => absurd rfl impossible⟩
  · obtain ⟨after, returned⟩ := (Gathers.new pieces).handed_of_once profile first few more
      (filled more) (fun position => (each position).mp) once (once.completes positive each)
    obtain ⟨returned', hands'⟩ := receiveAll_one profile second positive' each' one'
    exact ⟨_, _, returned, fun buffer => List.eq_of_mem_singleton, fun _ =>
      ⟨_, _, returned', hands', fun buffer => List.eq_of_mem_replicate⟩⟩

omit positive' in
/-- Others show at the end of a payload. -/
theorem Tolerates.orderly (ends : pieces.flatten.getLast? ≠ some 0)
    (ends' : pieces'.flatten.getLast? ≠ some 0)
    (tolerates : Tolerates profile pieces.flatten pieces'.flatten
      (order.map (piece first pieces)) (order'.map (piece second pieces'))) :
    Orderly pieces.length pieces'.length order order' := by
  have inside : ∀ position ∈ order, position < pieces.length := fun position => (each position).mp
  have inside' : ∀ position ∈ order', position < pieces'.length :=
    fun position => (each' position).mp
  obtain ⟨after, handed, returned, exact_, reuse⟩ := tolerates
  by_cases one : pieces.length = 1
  · refine .inl ⟨one, ?_⟩
    obtain ⟨single, hands⟩ := @receiveAll_one pieces order new profile first positive each one
    cases single.symm.trans returned
    obtain ⟨last, handed', returned', hands', exact'⟩ := reuse hands
    by_cases one' : pieces'.length = 1
    · exact .inl one'
    · exact .inr ((Gathers.new pieces').once_of_handed profile second few' one' (filled' one')
        inside' ends' returned' exact' hands').1
  · refine .inr ⟨one, ?_⟩
    by_cases completes : Completes pieces.length order
    · right
      have hands := (Gathers.new pieces).handed_of_completes profile first few one (filled one)
        inside completes returned
      obtain ⟨once, padded⟩ := (Gathers.new pieces).once_of_handed profile first few one
        (filled one) inside ends returned exact_ hands
      refine ⟨once, ?_⟩
      -- what was counted for the first payload shows at the end of the second
      by_contra several'
      obtain ⟨last, handed', returned', hands', exact'⟩ := reuse hands
      obtain ⟨-, zeros⟩ := padded.receiveAll profile
        (pieces_store second few' several' inside') returned'
      obtain ⟨buffer, member⟩ := List.exists_mem_of_ne_nil _ hands'
      have zero := zeros buffer member
      rw [exact' buffer member] at zero
      exact ends' zero
    · exact .inl completes

end Payloads

/-- Duplicates and reuse. Let every fragment of two payloads arrive at least once, in any
order and number, those of the second behind those of the first. If the deliveries are
orderly then the defragmenter hands out nothing but the payloads, and the second if the
first. Conversely, payloads that do not end in a zero are handled in no other case.

Proof: both payloads are followed as the lists of positions that arrive. With orderly
deliveries each payload is complete at its last new fragment and the defragmenter is
fresh behind the first; otherwise what is handed out or left over differs at the end of
a payload, which a payload that does not end in a zero makes visible. -/
theorem tolerates_iff {first second : TcpMigSegment} {sent sent' : List TcpMigSegment}
    {order order' : List Nat}
    (few : first.data.length ≤ MAX_FRAGMENT_SIZE * (2 ^ 16 - 1))
    (few' : second.data.length ≤ MAX_FRAGMENT_SIZE * (2 ^ 16 - 1))
    (cut : first.fragments profile = .ok sent) (cut' : second.fragments profile = .ok sent')
    (each : ∀ position, position ∈ order ↔ position < sent.length)
    (each' : ∀ position, position ∈ order' ↔ position < sent'.length) :
    (Orderly sent.length sent'.length order order' →
      Tolerates profile first.data second.data (delivered sent order) (delivered sent' order')) ∧
    (first.data.getLast? ≠ some 0 → second.data.getLast? ≠ some 0 →
      Tolerates profile first.data second.data (delivered sent order) (delivered sent' order') →
      Orderly sent.length sent'.length order order') := by
  obtain ⟨pieces, rfl, positive, fits, whole, filled⟩ := fragments_pieces profile few cut
  obtain ⟨pieces', rfl, positive', fits', whole', filled'⟩ := fragments_pieces profile few' cut'
  simp only [List.length_map, List.length_range] at each each' ⊢
  rw [delivered_pieces first fun position => (each position).mp,
    delivered_pieces second fun position => (each' position).mp, ← whole, ← whole']
  exact ⟨Orderly.tolerates profile first second fits fits' filled filled' positive positive' each
      each',
    Tolerates.orderly profile first second fits fits' filled filled' positive each each'⟩

/-- The messages of the two examples, of the given payload. -/
def exampleMessage (data : Buffer) : TcpMigSegment :=
  ⟨1#48, 2#48, ⟨3#32, 4#32⟩, .new ⟨3#32, 80⟩ ⟨5#32, 4321⟩ 0 .connectionState 80 80, data⟩

/-- A payload of one fragment that arrives twice, and one of two of which the first arrives
again. -/
theorem tolerates_behind_single :
    ∃ sent sent', (exampleMessage [1, 2, 3]).fragments .dev = .ok sent ∧
      (exampleMessage (List.replicate 2000 7)).fragments .dev = .ok sent' ∧
      Tolerates .dev [1, 2, 3] (List.replicate 2000 7) (delivered sent [0, 0])
        (delivered sent' [1, 0, 0]) := by
  obtain ⟨sent, sends⟩ := (exampleMessage [1, 2, 3]).fragments_returns .dev (fun _ => by decide)
  obtain ⟨sent', sends'⟩ := (exampleMessage (List.replicate 2000 7)).fragments_returns .dev
    (fun _ => by rw [exampleMessage, List.length_replicate]; decide)
  have one : ((exampleMessage [1, 2, 3]).fragments .dev).toOption.map List.length = some 1 := by
    decide +kernel
  have two : ((exampleMessage (List.replicate 2000 7)).fragments .dev).toOption.map List.length =
      some 2 := by
    decide +kernel
  rw [sends] at one
  rw [sends'] at two
  have length : sent.length = 1 := Option.some.inj one
  have length' : sent'.length = 2 := Option.some.inj two
  refine ⟨sent, sent', sends, sends', (tolerates_iff .dev (by decide) ?_ sends sends' ?_ ?_).1 ?_⟩
  · rw [exampleMessage, List.length_replicate]
    decide
  · rw [length]
    intro position
    simp
  · rw [length']
    intro position
    simp
    omega
  · rw [length, length']
    exact .inl ⟨rfl, .inr ⟨by decide, by decide⟩⟩

/-- A payload of two fragments behind another one is handed out with as many zeros behind
it as the first had bytes. -/
theorem not_tolerates_reused :
    ∃ sent, (exampleMessage (List.replicate 2000 7)).fragments .dev = .ok sent ∧
      ¬ Tolerates .dev (List.replicate 2000 7) (List.replicate 2000 7) (delivered sent [0, 1])
        (delivered sent [0, 1]) := by
  obtain ⟨sent, sends⟩ := (exampleMessage (List.replicate 2000 7)).fragments_returns .dev
    (fun _ => by rw [exampleMessage, List.length_replicate]; decide)
  refine ⟨sent, sends, ?_⟩
  rintro ⟨after, handed, returned, exact_, reuse⟩
  have one : (((exampleMessage (List.replicate 2000 7)).fragments .dev).toOption.bind
      fun sent => (new.receiveAll .dev (delivered sent [0, 1])).toOption).map
        (fun result => result.2.length) = some 1 := by
    decide +kernel
  have two : (((exampleMessage (List.replicate 2000 7)).fragments .dev).toOption.bind
      fun sent => (new.receiveAll .dev (delivered sent [0, 1] ++ delivered sent [0, 1])).toOption).map
        (fun result => result.2.map List.length) = some [2000, 4000] := by
    decide +kernel
  simp only [sends, Except.toOption, Option.bind_some, returned, Option.map_some, Option.some.injEq]
    at one
  obtain ⟨last, handed', returned', -, exact'⟩ := reuse (List.ne_nil_of_length_eq_add_one one)
  simp only [sends, Except.toOption, Option.bind_some, receiveAll_append .dev returned, returned',
    bind, Except.bind, Option.map_some, Option.some.injEq] at two
  have long : 4000 ∈ (handed ++ handed').map List.length := by
    rw [two]
    decide
  obtain ⟨buffer, member, length⟩ := List.mem_map.mp long
  have same : buffer = List.replicate 2000 7 := by
    obtain member | member := List.mem_append.mp member
    · exact exact_ buffer member
    · exact exact' buffer member
  rw [same, List.length_replicate] at length
  exact absurd length (by decide)

end TcpMigDefragmenter

end Capybara
