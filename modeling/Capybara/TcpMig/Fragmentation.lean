import Capybara.Lib.Chunks
import Capybara.TcpMig.Segment

/-!
# The fragments of a message

A message of at most 65535 fragments is cut into chunks that are numbered from zero
and all but the last of which announce another one, in both profiles. Beyond that
the counter overflows, which the development profile notices; without overflow checks
the fragmenter still ends.
-/

namespace Capybara

open Chunks

/-- The fragment with a given position, of a given number of fragments. -/
def TcpMigSegment.fragment (segment : TcpMigSegment) (count : Nat) (piece : Buffer × Nat) :
    TcpMigSegment :=
  { segment with
    tcpmigHdr := { segment.tcpmigHdr with
      flagNextFragment := piece.2 + 1 < count, fragmentOffset := UInt16.ofNat piece.2 }
    data := piece.1 }

namespace TcpMigFragmenter

variable (profile : Profile) (segment : TcpMigSegment)

/-- The last chunk. -/
theorem next_last {counter : Nat} (short : segment.data.length ≤ MAX_FRAGMENT_SIZE)
    (more : segment.data ≠ [] ∨ counter = 0) :
    next profile ⟨segment, counter⟩ = (do
      let currentFragment ← addU16 profile counter 1
      .ok (some (segment.fragment (counter + 1) (segment.data, counter),
        ⟨{ segment with data := [] }, currentFragment⟩))) := by
  have going : ¬ (segment.data.length = 0 ∧ counter ≠ 0) := by
    rintro ⟨empty, later⟩
    obtain something | first := more
    · exact something (List.length_eq_zero_iff.mp empty)
    · exact later first
  unfold next
  simp only [if_neg going, if_pos short]
  simp [TcpMigSegment.fragment, bind, Except.bind]

/-- A chunk with others behind it. -/
theorem next_cut {counter : Nat} (long : MAX_FRAGMENT_SIZE < segment.data.length) :
    next profile ⟨segment, counter⟩ = (do
      let currentFragment ← addU16 profile counter 1
      .ok (some (segment.fragment (counter + 2) (segment.data.take MAX_FRAGMENT_SIZE, counter),
        ⟨{ segment with data := segment.data.drop MAX_FRAGMENT_SIZE }, currentFragment⟩))) := by
  have going : ¬ (segment.data.length = 0 ∧ counter ≠ 0) := by omega
  have short : ¬ segment.data.length ≤ MAX_FRAGMENT_SIZE := by omega
  unfold next
  simp only [if_neg going, if_neg short]
  rw [Buffer.trim_of_le (by omega), Buffer.adjust_of_le (by omega)]
  have kept : segment.data.length - (segment.data.length - MAX_FRAGMENT_SIZE) = MAX_FRAGMENT_SIZE := by
    omega
  simp [TcpMigSegment.fragment, bind, Except.bind, kept]

/-- Only whether the position is the last one depends on the number of fragments. -/
theorem fragment_count {count other : Nat} {piece : Buffer × Nat}
    (same : piece.2 + 1 < count ↔ piece.2 + 1 < other) :
    segment.fragment count piece = segment.fragment other piece := by
  simp only [TcpMigSegment.fragment, same]

/-- Up to 65535 fragments, everything that is yielded. -/
theorem collect_eq {rounds counter : Nat} (more : segment.data ≠ [] ∨ counter = 0)
    (few : counter + (chunks MAX_FRAGMENT_SIZE segment.data).length < 2 ^ 16)
    (enough : (chunks MAX_FRAGMENT_SIZE segment.data).length < rounds) :
    collect profile rounds ⟨segment, counter⟩ =
      .ok (((chunks MAX_FRAGMENT_SIZE segment.data).zipIdx counter).map
        (segment.fragment (counter + (chunks MAX_FRAGMENT_SIZE segment.data).length))) := by
  induction rounds generalizing segment counter with
  | zero => omega
  | succ rounds inductionHypothesis =>
    by_cases short : segment.data.length ≤ MAX_FRAGMENT_SIZE
    · rw [chunks_short short, List.length_singleton] at few enough ⊢
      have counted : addU16 profile counter 1 = .ok (counter + 1) := by
        simp only [addU16, if_pos few]
      have ended : next profile ⟨{ segment with data := [] }, counter + 1⟩ = .ok none := by
        simp [next]
      cases rounds with
      | zero => omega
      | succ rounds =>
        simp only [collect, next_last profile segment short more, counted, ended, bind, Except.bind,
          List.zipIdx_singleton, List.map_singleton]
    · have long : MAX_FRAGMENT_SIZE < segment.data.length := Nat.lt_of_not_le short
      have cut := chunks_long (by decide : 0 < MAX_FRAGMENT_SIZE) long
      have rest : segment.data.drop MAX_FRAGMENT_SIZE ≠ [] := by
        rw [ne_eq, List.drop_eq_nil_iff]
        omega
      have behind : 0 < (chunks MAX_FRAGMENT_SIZE (segment.data.drop MAX_FRAGMENT_SIZE)).length :=
        List.length_pos_of_ne_nil (chunks_ne_nil _ _)
      rw [cut, List.length_cons] at few enough ⊢
      have counted : addU16 profile counter 1 = .ok (counter + 1) := by
        have fits : counter + 1 < 2 ^ 16 := by omega
        simp only [addU16, if_pos fits]
      have others := @inductionHypothesis
        { segment with data := segment.data.drop MAX_FRAGMENT_SIZE } (counter + 1) (.inl rest)
        (by dsimp only; omega) (by dsimp only; omega)
      dsimp only at others
      rw [Nat.add_right_comm, Nat.add_assoc] at others
      have first : segment.fragment (counter + 2) (segment.data.take MAX_FRAGMENT_SIZE, counter) =
          segment.fragment (counter + ((chunks MAX_FRAGMENT_SIZE
            (segment.data.drop MAX_FRAGMENT_SIZE)).length + 1))
            (segment.data.take MAX_FRAGMENT_SIZE, counter) :=
        fragment_count segment (by dsimp only; omega)
      simp only [collect, next_cut profile segment long, counted, others, bind, Except.bind,
        List.zipIdx_cons, List.map_cons, first]
      rfl

/-- What is yielded when nothing is left: nothing, or one empty fragment that looks like
a whole message if the counter has come back to zero. -/
theorem collect_empty {rounds counter : Nat} {sent : List TcpMigSegment} (empty : segment.data = [])
    (collected : collect profile rounds ⟨segment, counter⟩ = .ok sent) :
    ∀ fragment ∈ sent, fragment.data = [] ∧ fragment.tcpmigHdr =
      { segment.tcpmigHdr with flagNextFragment := false, fragmentOffset := 0 } := by
  have ended {later : Nat} (further : later ≠ 0) : next profile ⟨segment, later⟩ = .ok none := by
    simp [next, empty, further]
  cases rounds with
  | zero => cases collected
  | succ rounds =>
    by_cases first : counter = 0
    · subst first
      have counted : addU16 profile 0 1 = .ok 1 := by simp [addU16]
      simp only [collect, next_last profile segment (by simp [empty]) (.inr rfl), counted, bind,
        Except.bind] at collected
      cases rounds with
      | zero => cases collected
      | succ rounds =>
        have same : ({ segment with data := [] } : TcpMigSegment) = segment := by rw [← empty]
        simp only [collect, same, ended Nat.one_ne_zero, bind, Except.bind] at collected
        cases collected
        intro fragment member
        obtain rfl := List.mem_singleton.mp member
        exact ⟨empty, rfl⟩
    · simp only [collect, ended first, bind, Except.bind] at collected
      cases collected
      simp

/-- The fragments of a message of at most 65536 fragments, in both profiles: its chunks,
and behind them at most a fragment that carries nothing. -/
theorem collect_ok {rounds counter : Nat} {sent : List TcpMigSegment}
    (more : segment.data ≠ [] ∨ counter = 0)
    (few : counter + (chunks MAX_FRAGMENT_SIZE segment.data).length ≤ 2 ^ 16)
    (collected : collect profile rounds ⟨segment, counter⟩ = .ok sent) :
    ∃ extra, sent = ((chunks MAX_FRAGMENT_SIZE segment.data).zipIdx counter).map
        (segment.fragment (counter + (chunks MAX_FRAGMENT_SIZE segment.data).length)) ++ extra ∧
      ∀ fragment ∈ extra, fragment.data = [] ∧ fragment.tcpmigHdr =
        { segment.tcpmigHdr with flagNextFragment := false, fragmentOffset := 0 } := by
  induction rounds generalizing segment counter sent with
  | zero => cases collected
  | succ rounds inductionHypothesis =>
    by_cases short : segment.data.length ≤ MAX_FRAGMENT_SIZE
    · rw [chunks_short short, List.length_singleton] at few ⊢
      simp only [collect, next_last profile segment short more] at collected
      obtain ⟨yielded, counted, collected⟩ := bind_ok.mp collected
      obtain ⟨counter', counted, rest⟩ := bind_ok.mp counted
      cases rest
      obtain ⟨others, behind, collected⟩ := bind_ok.mp collected
      cases collected
      have nothing := collect_empty profile { segment with data := [] } rfl behind
      exact ⟨others, by simp only [List.zipIdx_singleton, List.map_singleton, List.singleton_append],
        nothing⟩
    · have long : MAX_FRAGMENT_SIZE < segment.data.length := Nat.lt_of_not_le short
      have cut := chunks_long (by decide : 0 < MAX_FRAGMENT_SIZE) long
      have rest : segment.data.drop MAX_FRAGMENT_SIZE ≠ [] := by
        rw [ne_eq, List.drop_eq_nil_iff]
        omega
      have behind : 0 < (chunks MAX_FRAGMENT_SIZE (segment.data.drop MAX_FRAGMENT_SIZE)).length :=
        List.length_pos_of_ne_nil (chunks_ne_nil _ _)
      rw [cut, List.length_cons] at few ⊢
      have counted : addU16 profile counter 1 = .ok (counter + 1) := by
        have fits : counter + 1 < 2 ^ 16 := by omega
        simp only [addU16, if_pos fits]
      have yielded : next profile ⟨segment, counter⟩ = .ok (some
          (segment.fragment (counter + 2) (segment.data.take MAX_FRAGMENT_SIZE, counter),
            ⟨{ segment with data := segment.data.drop MAX_FRAGMENT_SIZE }, counter + 1⟩)) := by
        simp only [next_cut profile segment long, counted, bind, Except.bind]
      obtain ⟨_, yields, collected⟩ := bind_ok.mp collected
      cases yielded.symm.trans yields
      obtain ⟨others, further, collected⟩ := bind_ok.mp collected
      cases collected
      obtain ⟨extra, rfl, nothing⟩ := @inductionHypothesis
        { segment with data := segment.data.drop MAX_FRAGMENT_SIZE } (counter + 1) others (.inl rest)
        (by dsimp only; omega) further
      refine ⟨extra, ?_, nothing⟩
      have first : segment.fragment (counter + 2) (segment.data.take MAX_FRAGMENT_SIZE, counter) =
          segment.fragment (counter + ((chunks MAX_FRAGMENT_SIZE
            (segment.data.drop MAX_FRAGMENT_SIZE)).length + 1))
            (segment.data.take MAX_FRAGMENT_SIZE, counter) :=
        fragment_count segment (by dsimp only; omega)
      rw [List.zipIdx_cons, List.map_cons, List.cons_append, first]
      dsimp only
      rw [Nat.add_right_comm, Nat.add_assoc]
      rfl

/-- Without overflow checks the fragmenter ends whatever the length. -/
theorem collect_release {rounds : Nat} (counter : Nat) (enough : segment.data.length + 2 ≤ rounds) :
    ∃ fragments, collect .release rounds ⟨segment, counter⟩ = .ok fragments := by
  induction rounds generalizing segment counter with
  | zero => omega
  | succ rounds inductionHypothesis =>
    obtain ⟨counter', counted⟩ : ∃ counter', addU16 .release counter 1 = .ok counter' := by
      unfold addU16
      split
      · exact ⟨_, rfl⟩
      · exact ⟨_, rfl⟩
    by_cases ended : segment.data.length = 0 ∧ counter ≠ 0
    · exact ⟨[], by simp [collect, next, ended, bind, Except.bind]⟩
    by_cases short : segment.data.length ≤ MAX_FRAGMENT_SIZE
    · by_cases empty : segment.data = []
      · have first : counter = 0 := by
          by_contra later
          exact ended ⟨List.length_eq_zero_iff.mpr empty, later⟩
        have one : (chunks MAX_FRAGMENT_SIZE segment.data).length = 1 := by
          rw [chunks_short short, List.length_singleton]
        exact ⟨_, collect_eq .release segment (.inr first) (by omega) (by omega)⟩
      · have further : 0 < segment.data.length := List.length_pos_of_ne_nil empty
        obtain ⟨fragments, others⟩ := inductionHypothesis { segment with data := [] } counter'
          (by rw [List.length_nil]; omega)
        refine ⟨segment.fragment (counter + 1) (segment.data, counter) :: fragments, ?_⟩
        simp only [collect, next_last .release segment short (.inl empty), counted, others, bind,
          Except.bind]
    · have long : MAX_FRAGMENT_SIZE < segment.data.length := Nat.lt_of_not_le short
      have shorter : (segment.data.drop MAX_FRAGMENT_SIZE).length < segment.data.length := by
        rw [List.length_drop]
        have positive : 0 < MAX_FRAGMENT_SIZE := by decide
        omega
      obtain ⟨fragments, others⟩ := inductionHypothesis
        { segment with data := segment.data.drop MAX_FRAGMENT_SIZE } counter' (by dsimp only; omega)
      refine ⟨segment.fragment (counter + 2) (segment.data.take MAX_FRAGMENT_SIZE, counter) ::
        fragments, ?_⟩
      simp only [collect, next_cut .release segment long, counted, others, bind, Except.bind]

end TcpMigFragmenter

/-- The fragments of a message that needs at most 65535 of them. -/
theorem TcpMigSegment.fragments_eq (profile : Profile) (segment : TcpMigSegment)
    (few : (chunks MAX_FRAGMENT_SIZE segment.data).length < 2 ^ 16) :
    segment.fragments profile = .ok ((chunks MAX_FRAGMENT_SIZE segment.data).zipIdx.map
      (segment.fragment (chunks MAX_FRAGMENT_SIZE segment.data).length)) := by
  have most := chunks_length_le_length (by decide : 0 < MAX_FRAGMENT_SIZE) segment.data
  have collected := @TcpMigFragmenter.collect_eq profile segment (segment.data.length + 3) 0
    (.inr rfl) (by omega) (by omega)
  rw [Nat.zero_add] at collected
  exact collected

/-- A message returns to its sender unless its fragments cannot be counted. -/
theorem TcpMigSegment.fragments_returns (profile : Profile) (segment : TcpMigSegment)
    (few : profile.checks = true → segment.data.length ≤ MAX_FRAGMENT_SIZE * (2 ^ 16 - 1)) :
    Returns (segment.fragments profile) := by
  cases profile with
  | dev =>
    have most : (chunks MAX_FRAGMENT_SIZE segment.data).length ≤ 2 ^ 16 - 1 :=
      chunks_length_le (by decide) (few rfl)
    exact ⟨_, segment.fragments_eq .dev (Nat.lt_of_le_pred (by decide) most)⟩
  | release =>
    obtain ⟨fragments, collected⟩ := TcpMigFragmenter.collect_release segment 0
      (Nat.le_succ (segment.data.length + 2))
    exact ⟨fragments, collected⟩

end Capybara
