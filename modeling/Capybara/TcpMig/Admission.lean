import Capybara.TcpMig.Transfer

/-!
# The longest state that is sent

`ActiveMigration::send` refuses a message whose length divided by the size of a fragment
exceeds 65535. This admits messages of 65536 fragments, the last of them not full. The
`u16` counter of the fragmenter does not count that far: with overflow checks the origin
panics, and without them the counter comes back to zero, the end is missed, and an empty
fragment follows that a target takes for a complete message.
-/

namespace Capybara

open Chunks

namespace TcpMigFragmenter

/-- What the fragmenter yields until it ends, and what it is then. -/
inductive Drains (profile : Profile) : TcpMigFragmenter → List TcpMigSegment → TcpMigFragmenter → Prop where
  | ended {fragmenter : TcpMigFragmenter} (nothing : fragmenter.next profile = .ok none) :
      Drains profile fragmenter [] fragmenter
  | yielded {fragmenter next final : TcpMigFragmenter} {fragment : TcpMigSegment}
      {later : List TcpMigSegment} (first : fragmenter.next profile = .ok (some (fragment, next)))
      (others : Drains profile next later final) :
      Drains profile fragmenter (fragment :: later) final

variable {profile : Profile} {fragmenter final : TcpMigFragmenter} {sent : List TcpMigSegment}

/-- What is collected is what is yielded. -/
theorem drains_of_collect {rounds : Nat} (collected : collect profile rounds fragmenter = .ok sent) :
    ∃ final, Drains profile fragmenter sent final := by
  induction rounds generalizing fragmenter sent with
  | zero => cases collected
  | succ rounds inductionHypothesis =>
    obtain ⟨yielded, first, collected⟩ := bind_ok.mp collected
    cases yielded with
    | none =>
      cases collected
      exact ⟨fragmenter, .ended first⟩
    | some yielded =>
      obtain ⟨fragment, next⟩ := yielded
      obtain ⟨others, behind, collected⟩ := bind_ok.mp collected
      cases collected
      obtain ⟨final, drains⟩ := inductionHypothesis behind
      exact ⟨final, .yielded first drains⟩

/-- The counter is a `u16`. -/
theorem next_counter {segment : TcpMigSegment} {next : TcpMigFragmenter}
    (first : fragmenter.next profile = .ok (some (segment, next))) :
    next.currentFragment = (fragmenter.currentFragment + 1) % 2 ^ 16 := by
  unfold TcpMigFragmenter.next at first
  dsimp only at first
  split at first
  · cases first
  obtain ⟨cut, -, first⟩ := bind_ok.mp first
  obtain ⟨counter, counted, first⟩ := bind_ok.mp first
  cases first
  unfold addU16 at counted
  split at counted
  · rename_i fits
    cases counted
    exact (Nat.mod_eq_of_lt fits).symm
  split at counted
  · cases counted
  · cases counted
    rfl

/-- At the end the counter is the number of fragments, as far as it can count. -/
theorem Drains.counter (drains : Drains profile fragmenter sent final)
    (initially : fragmenter.currentFragment < 2 ^ 16) :
    final.currentFragment = (fragmenter.currentFragment + sent.length) % 2 ^ 16 := by
  induction drains with
  | ended nothing => exact (Nat.mod_eq_of_lt initially).symm
  | yielded first others inductionHypothesis =>
    have counted := next_counter first
    rw [inductionHypothesis (by omega), counted, List.length_cons, Nat.mod_add_mod, Nat.add_assoc,
      Nat.add_comm 1]

/-- As many fragments as the counter has values: without overflow checks an empty one follows. -/
theorem collect_wrapped {segment : TcpMigSegment} {rounds counter : Nat} (something : segment.data ≠ [])
    (full : counter + (chunks MAX_FRAGMENT_SIZE segment.data).length = 2 ^ 16)
    (enough : (chunks MAX_FRAGMENT_SIZE segment.data).length + 1 < rounds) :
    collect .release rounds ⟨segment, counter⟩ =
      .ok (((chunks MAX_FRAGMENT_SIZE segment.data).zipIdx counter).map (segment.fragment (2 ^ 16)) ++
        [segment.fragment 1 ([], 0)]) := by
  induction rounds generalizing segment counter with
  | zero => omega
  | succ rounds inductionHypothesis =>
    by_cases short : segment.data.length ≤ MAX_FRAGMENT_SIZE
    · rw [chunks_short short, List.length_singleton] at full enough
      rw [chunks_short short]
      have wrapped : addU16 .release counter 1 = .ok 0 := by
        have whole : ¬ counter + 1 < 2 ^ 16 := by omega
        rw [addU16, if_neg whole, full]
        rfl
      have behind : collect .release rounds ⟨{ segment with data := [] }, 0⟩ =
          .ok [segment.fragment 1 ([], 0)] := by
        have one : chunks MAX_FRAGMENT_SIZE ([] : Buffer) = [[]] := chunks_short (Nat.zero_le _)
        have collected := @collect_eq .release { segment with data := [] } rounds 0 (.inr rfl)
          (by dsimp only; rw [one]; decide)
          (by dsimp only; rw [one, List.length_singleton]; omega)
        dsimp only at collected
        rw [one] at collected
        exact collected
      simp only [collect, next_last .release segment short (.inl something), wrapped, behind, bind,
        Except.bind, full]
      rfl
    · have long : MAX_FRAGMENT_SIZE < segment.data.length := Nat.lt_of_not_le short
      have cut := chunks_long (by decide : 0 < MAX_FRAGMENT_SIZE) long
      have rest : segment.data.drop MAX_FRAGMENT_SIZE ≠ [] := by
        rw [ne_eq, List.drop_eq_nil_iff]
        omega
      have behind : 0 < (chunks MAX_FRAGMENT_SIZE (segment.data.drop MAX_FRAGMENT_SIZE)).length :=
        List.length_pos_of_ne_nil (chunks_ne_nil _ _)
      rw [cut, List.length_cons] at full enough
      rw [cut]
      have counted : addU16 .release counter 1 = .ok (counter + 1) := by
        have fits : counter + 1 < 2 ^ 16 := by omega
        simp only [addU16, if_pos fits]
      have others := @inductionHypothesis
        { segment with data := segment.data.drop MAX_FRAGMENT_SIZE } (counter + 1) rest
        (by dsimp only; omega) (by dsimp only; omega)
      dsimp only at others
      have first : segment.fragment (counter + 2) (segment.data.take MAX_FRAGMENT_SIZE, counter) =
          segment.fragment (2 ^ 16) (segment.data.take MAX_FRAGMENT_SIZE, counter) :=
        fragment_count segment (by dsimp only; omega)
      simp only [collect, next_cut .release segment long, counted, others, bind, Except.bind,
        List.zipIdx_cons, List.map_cons, first, List.cons_append]
      rfl

end TcpMigFragmenter

/-- The fragments cut a message: as many as it needs, numbered from zero, together its bytes,
and only the last announces no other. -/
structure Cut (data : Buffer) (sent : List TcpMigSegment) : Prop where
  count : sent.length = max 1 ((data.length + MAX_FRAGMENT_SIZE - 1) / MAX_FRAGMENT_SIZE)
  numbered : ∀ index (fragment : TcpMigSegment), sent[index]? = some fragment →
    fragment.tcpmigHdr.fragmentOffset.toNat = index
  distinct : (sent.map fun fragment : TcpMigSegment => fragment.tcpmigHdr.fragmentOffset).Nodup
  whole : (sent.map TcpMigSegment.data).flatten = data
  last : ∀ index (fragment : TcpMigSegment), sent[index]? = some fragment →
    (fragment.tcpmigHdr.flagNextFragment = false ↔ index + 1 = sent.length)

/-- Fragments are distinct if each carries its position. -/
theorem distinct_of_numbered {sent : List TcpMigSegment}
    (numbered : ∀ index (fragment : TcpMigSegment), sent[index]? = some fragment →
      fragment.tcpmigHdr.fragmentOffset.toNat = index) :
    (sent.map fun fragment : TcpMigSegment => fragment.tcpmigHdr.fragmentOffset).Nodup := by
  refine List.nodup_iff_injective_getElem.mpr ?_
  intro first second same
  dsimp only at same
  rw [List.getElem_map, List.getElem_map] at same
  have inside {index : Nat} (bound : index < (sent.map fun fragment : TcpMigSegment =>
      fragment.tcpmigHdr.fragmentOffset).length) : index < sent.length := by
    rwa [List.length_map] at bound
  have one := numbered _ _ (List.getElem?_eq_getElem (inside first.2))
  have other := numbered _ _ (List.getElem?_eq_getElem (inside second.2))
  rw [same] at one
  exact Fin.ext (one.symm.trans other)

/-- The chunks of a message, numbered. -/
theorem cut_chunks (segment : TcpMigSegment)
    (few : (chunks MAX_FRAGMENT_SIZE segment.data).length < 2 ^ 16) :
    Cut segment.data ((chunks MAX_FRAGMENT_SIZE segment.data).zipIdx.map
      (segment.fragment (chunks MAX_FRAGMENT_SIZE segment.data).length)) := by
  have counted : ((chunks MAX_FRAGMENT_SIZE segment.data).zipIdx.map
      (segment.fragment (chunks MAX_FRAGMENT_SIZE segment.data).length)).length =
        (chunks MAX_FRAGMENT_SIZE segment.data).length := by
    rw [List.length_map, List.length_zipIdx]
  have found {index : Nat} {fragment : TcpMigSegment} (at_ : ((chunks MAX_FRAGMENT_SIZE
      segment.data).zipIdx.map (segment.fragment (chunks MAX_FRAGMENT_SIZE
        segment.data).length))[index]? = some fragment) :
      index < (chunks MAX_FRAGMENT_SIZE segment.data).length ∧ ∃ chunk,
        fragment = segment.fragment (chunks MAX_FRAGMENT_SIZE segment.data).length (chunk, index) := by
    have inside := (List.getElem?_eq_some_iff.mp at_).1
    rw [counted] at inside
    rw [List.getElem?_map, List.getElem?_zipIdx, List.getElem?_eq_getElem inside] at at_
    cases at_
    exact ⟨inside, _, by rw [Nat.zero_add]⟩
  have numbered (index : Nat) (fragment : TcpMigSegment) (at_ : ((chunks MAX_FRAGMENT_SIZE
      segment.data).zipIdx.map (segment.fragment (chunks MAX_FRAGMENT_SIZE
        segment.data).length))[index]? = some fragment) :
      fragment.tcpmigHdr.fragmentOffset.toNat = index := by
    obtain ⟨inside, chunk, rfl⟩ := found at_
    exact Nat.mod_eq_of_lt (Nat.lt_trans inside few)
  refine ⟨?_, numbered, distinct_of_numbered numbered, ?_, ?_⟩
  · rw [counted]
    exact chunks_length (by decide) _
  · rw [List.map_map]
    have pieces : TcpMigSegment.data ∘ segment.fragment (chunks MAX_FRAGMENT_SIZE
        segment.data).length = Prod.fst := rfl
    rw [pieces, List.zipIdx_map_fst]
    exact chunks_flatten _ _
  · intro index fragment at_
    obtain ⟨inside, chunk, rfl⟩ := found at_
    rw [counted]
    simp only [TcpMigSegment.fragment, decide_eq_false_iff_not]
    omega

namespace ActiveMigration

variable {profile : Profile} {active : ActiveMigration} {tcpmigHdr : TcpMigHeader} {buf : Buffer}

/-- A record sends a message in the fragments that cut it, and the counter of the fragmenter
counts them, exactly if 65535 fragments can hold the message.

Proof: the fragments that are cut are counted by the counter modulo `2 ^ 16`. So an
exact count means few fragments, and few fragments that cut the buffer mean a short one;
conversely a short buffer is admitted and the counter does not wrap. -/
theorem send_cut_iff (profile : Profile) (active : ActiveMigration) (tcpmigHdr : TcpMigHeader)
    (buf : Buffer) :
    (∃ sent final, active.send profile tcpmigHdr buf = .ok sent ∧
      TcpMigFragmenter.Drains profile ⟨active.message tcpmigHdr buf, 0⟩ sent final ∧
      final.currentFragment = sent.length ∧ Cut buf sent) ↔
    buf.length ≤ MAX_FRAGMENT_SIZE * (2 ^ 16 - 1) := by
  constructor
  · rintro ⟨sent, final, -, drains, counted, cut⟩
    have wrapped := drains.counter (by dsimp only; decide)
    have few : sent.length < 2 ^ 16 := by
      rw [← counted, wrapped]
      exact Nat.mod_lt _ (by decide)
    rw [cut.count] at few
    have most : (buf.length + MAX_FRAGMENT_SIZE - 1) / MAX_FRAGMENT_SIZE < 2 ^ 16 :=
      Nat.lt_of_le_of_lt (Nat.le_max_right _ _) few
    have short := (Nat.div_lt_iff_lt_mul (by decide : 0 < MAX_FRAGMENT_SIZE)).mp most
    have size : MAX_FRAGMENT_SIZE = 1452 := by decide
    omega
  · intro fits
    have few : (chunks MAX_FRAGMENT_SIZE buf).length < 2 ^ 16 :=
      Nat.lt_succ_of_le (chunks_length_le (by decide) fits)
    have collected := (active.message tcpmigHdr buf).fragments_eq profile few
    obtain ⟨final, drains⟩ := TcpMigFragmenter.drains_of_collect collected
    have cut := cut_chunks (active.message tcpmigHdr buf) few
    refine ⟨_, final, ?_, drains, ?_, cut⟩
    · have admitted : ¬ buf.length / MAX_FRAGMENT_SIZE > 2 ^ 16 - 1 := by
        have most := Nat.div_le_div_right (c := MAX_FRAGMENT_SIZE) fits
        rw [Nat.mul_div_cancel_left _ (by decide)] at most
        exact Nat.not_lt_of_le most
      rw [send, if_neg admitted]
      exact collected
    · rw [drains.counter (by dsimp only; decide), Nat.zero_add]
      refine Nat.mod_eq_of_lt ?_
      rw [List.length_map, List.length_zipIdx]
      exact few

/-- The shortest message that 65535 fragments cannot hold. -/
def uncountable : Buffer := List.replicate (MAX_FRAGMENT_SIZE * (2 ^ 16 - 1) + 1) 0

/-- The message is one byte longer than what 2^16 - 1 fragments hold. -/
theorem uncountable_length : uncountable.length = MAX_FRAGMENT_SIZE * (2 ^ 16 - 1) + 1 :=
  List.length_replicate

/-- It needs as many fragments as a `u16` has values. -/
theorem uncountable_chunks : (chunks MAX_FRAGMENT_SIZE uncountable).length = 2 ^ 16 := by
  rw [chunks_length (by decide), uncountable_length]
  decide

/-- Without overflow checks a message of as many chunks is followed by an empty fragment. -/
theorem send_wrapped (active : ActiveMigration) (tcpmigHdr : TcpMigHeader)
    (admitted : buf.length / MAX_FRAGMENT_SIZE ≤ 2 ^ 16 - 1)
    (full : (chunks MAX_FRAGMENT_SIZE buf).length = 2 ^ 16) :
    active.send .release tcpmigHdr buf =
      .ok ((chunks MAX_FRAGMENT_SIZE buf).zipIdx.map ((active.message tcpmigHdr buf).fragment (2 ^ 16)) ++
        [(active.message tcpmigHdr buf).fragment 1 ([], 0)]) := by
  have something : buf ≠ [] := by
    rintro rfl
    rw [chunks_short (Nat.zero_le _)] at full
    exact absurd full (by decide)
  have enough : (chunks MAX_FRAGMENT_SIZE buf).length ≤ buf.length + 1 :=
    chunks_length_le_length (by decide) buf
  rw [send, if_neg (Nat.not_lt_of_le admitted)]
  refine TcpMigFragmenter.collect_wrapped something ?_ ?_
  · rw [Nat.zero_add]
    exact full
  · dsimp only
    omega

/-- Such a message is admitted, and its last fragment has the position of the first one. -/
theorem send_uncountable :
    uncountable.length / MAX_FRAGMENT_SIZE ≤ 2 ^ 16 - 1 ∧
    max 1 ((uncountable.length + MAX_FRAGMENT_SIZE - 1) / MAX_FRAGMENT_SIZE) = 65536 ∧
    ∃ sent last, (new 1 1 2 2 300 300 ⟨1, 80⟩ ⟨3, 50000⟩ none).send .release
      (.new ⟨1, 80⟩ ⟨3, 50000⟩ 0 .connectionState 300 300) uncountable = .ok sent ∧
      sent.length = 65537 ∧ sent[65536]? = some last ∧ last.data = [] ∧
      last.tcpmigHdr.fragmentOffset = 0 ∧ last.tcpmigHdr.flagNextFragment = false ∧
      ¬ Cut uncountable sent := by
  have needed : max 1 ((uncountable.length + MAX_FRAGMENT_SIZE - 1) / MAX_FRAGMENT_SIZE) = 65536 := by
    rw [uncountable_length]
    decide
  have admitted : uncountable.length / MAX_FRAGMENT_SIZE ≤ 2 ^ 16 - 1 := by
    rw [uncountable_length]
    decide
  have sends := send_wrapped (new 1 1 2 2 300 300 ⟨1, 80⟩ ⟨3, 50000⟩ none)
    (.new ⟨1, 80⟩ ⟨3, 50000⟩ 0 .connectionState 300 300) admitted uncountable_chunks
  have counted (cut : List UInt8 × Nat → TcpMigSegment) :
      ((chunks MAX_FRAGMENT_SIZE uncountable).zipIdx.map cut).length = 65536 := by
    rw [List.length_map, List.length_zipIdx, uncountable_chunks]
    rfl
  have extra (cut : List UInt8 × Nat → TcpMigSegment) (last : TcpMigSegment) :
      ((chunks MAX_FRAGMENT_SIZE uncountable).zipIdx.map cut ++ [last])[65536]? = some last := by
    rw [List.getElem?_append_right (Nat.le_of_eq (counted cut)), counted]
    rfl
  refine ⟨admitted, needed, _, _, sends, ?_, extra _ _, rfl, rfl, rfl, ?_⟩
  · rw [List.length_append, counted, List.length_singleton]
  · intro cut
    have count := cut.count
    rw [needed, List.length_append, counted, List.length_singleton] at count
    exact absurd count (by decide)

end ActiveMigration

end Capybara
