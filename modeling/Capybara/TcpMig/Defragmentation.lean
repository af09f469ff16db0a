import Capybara.TcpMig.Fragmentation

/-!
# Joining fragments

What a fragment makes a defragmenter hand out is a function of what has been stored:
the stored fragments in the order of their positions, followed by zeros up to the
size that was counted. A defragmenter returns unless a last fragment lies in front of
one that is stored, or it is complete and nothing was counted.
-/

namespace Capybara

open Wire

namespace TcpMigDefragmenter

/-- The size that was counted covers what is stored. Only what has been overwritten, or
handed out before, makes it larger. -/
def Covers (defragmenter : TcpMigDefragmenter) : Prop :=
  defragmenter.fragments.flatten.length ≤ defragmenter.currentSize

/-- A new defragmenter holds nothing. -/
theorem covers_new : new.Covers := Nat.le_refl 0

/-- Empty buffers behind the fragments change nothing. -/
theorem padded_getD (fragments : List Buffer) (count position : Nat) :
    (fragments ++ List.replicate count []).getD position [] = fragments.getD position [] := by
  simp only [List.getD_eq_getElem?_getD]
  by_cases inside : position < fragments.length
  · rw [List.getElem?_append_left inside]
  · rw [List.getElem?_append_right (Nat.le_of_not_lt inside),
      List.getElem?_eq_none (Nat.le_of_not_lt inside), List.getElem?_replicate]
    split
    · rfl
    · rfl

/-- Storing a fragment replaces what its position held. -/
theorem store_length_add (fragments : List Buffer) (offset : Nat) (buf : Buffer) :
    (store fragments offset buf).flatten.length + (fragments.getD offset []).length =
      fragments.flatten.length + buf.length := by
  have padded (count : Nat) : (fragments ++ List.replicate count []).flatten = fragments.flatten := by
    simp
  have replaced (parts : List Buffer) (position : Nat) (inside : position < parts.length) :
      (parts.set position buf).flatten.length + (parts.getD position []).length =
        parts.flatten.length + buf.length := by
    induction parts generalizing position with
    | nil => exact absurd inside (Nat.not_lt_zero _)
    | cons part parts inductionHypothesis =>
      cases position with
      | zero =>
        simp only [List.set_cons_zero, List.flatten_cons, List.length_append, List.getD_cons_zero]
        omega
      | succ position =>
        have others := inductionHypothesis position (Nat.lt_of_succ_lt_succ inside)
        simp only [List.set_cons_succ, List.flatten_cons, List.length_append, List.getD_cons_succ]
        omega
  have room : offset < (fragments ++ List.replicate (offset + 1 - fragments.length) []).length := by
    rw [List.length_append, List.length_replicate]
    omega
  have set := replaced _ offset room
  rw [padded, padded_getD] at set
  exact set

/-- Storing a fragment adds at most its bytes. -/
theorem store_length_le (fragments : List Buffer) (offset : Nat) (buf : Buffer) :
    (store fragments offset buf).flatten.length ≤ fragments.flatten.length + buf.length := by
  rw [← store_length_add]
  exact Nat.le_add_right _ _

/-- The stored fragments are copied to the front of the buffer. -/
theorem join_eq {size : Nat} {fragments : List Buffer} (something : size ≠ 0)
    (room : fragments.flatten.length ≤ size) :
    join size fragments =
      .ok (fragments.flatten ++ List.replicate (size - fragments.flatten.length) 0) := by
  have writes := Writer.sequence_puts Fault.sliceOutOfRange fragments (List.replicate size 0)
    (by rw [List.length_replicate]; exact room)
  simp only [join, if_neg something, writes, bind, Except.bind, List.drop_replicate]

/-- Where the fragment is stored, and how many there will be. -/
def gathered (defragmenter : TcpMigDefragmenter) (hdr : TcpMigHeader) (buf : Buffer) :
    TcpMigDefragmenter where
  fragments := store defragmenter.fragments hdr.fragmentOffset.toNat buf
  totalFragments := if hdr.flagNextFragment then defragmenter.totalFragments
    else some (hdr.fragmentOffset.toNat + 1)
  currentFragments := defragmenter.currentFragments + 1
  currentSize := defragmenter.currentSize + buf.length

/-- The size grows with every fragment, also with one that replaces another, so that it still
covers what is held. -/
theorem Covers.gathered {defragmenter : TcpMigDefragmenter} (covers : defragmenter.Covers)
    (hdr : TcpMigHeader) (buf : Buffer) : (defragmenter.gathered hdr buf).Covers := by
  have stored := store_length_le defragmenter.fragments hdr.fragmentOffset.toNat buf
  exact Nat.le_trans stored (Nat.add_le_add_right covers _)

/-- What the fragment completes, if anything. -/
def payload (defragmenter : TcpMigDefragmenter) (hdr : TcpMigHeader) (buf : Buffer) : Option Buffer :=
  if hdr.flagNextFragment = false ∧ hdr.fragmentOffset = 0 then some buf
  else
    let next := defragmenter.gathered hdr buf
    if next.totalFragments ≠ some next.currentFragments then none
    else some (next.fragments.flatten ++
      List.replicate (next.currentSize - next.fragments.flatten.length) 0)

/-- A last fragment is stored behind the others. -/
def Fits (defragmenter : TcpMigDefragmenter) (hdr : TcpMigHeader) : Prop :=
  hdr.flagNextFragment = false → hdr.fragmentOffset ≠ 0 →
    defragmenter.fragments.length ≤ hdr.fragmentOffset.toNat + 1

/-- The defragmenter after the fragment. -/
def advanced (defragmenter : TcpMigDefragmenter) (hdr : TcpMigHeader) (buf : Buffer) :
    TcpMigDefragmenter :=
  if hdr.flagNextFragment = false ∧ hdr.fragmentOffset = 0 then defragmenter.reset
  else if (defragmenter.gathered hdr buf).totalFragments ≠
      some (defragmenter.gathered hdr buf).currentFragments then defragmenter.gathered hdr buf
  else (defragmenter.gathered hdr buf).reset

variable {profile : Profile} {defragmenter : TcpMigDefragmenter} {hdr : TcpMigHeader} {buf : Buffer}

/-- A fragment that fits takes its place. -/
theorem gather_eq (fits : defragmenter.Fits hdr)
    (several : ¬ (hdr.flagNextFragment = false ∧ hdr.fragmentOffset = 0)) :
    defragmenter.gather profile hdr buf = .ok (defragmenter.gathered hdr buf) := by
  have counted : defragmenter.count profile hdr =
      .ok (defragmenter.gathered hdr buf).totalFragments := by
    cases next : hdr.flagNextFragment with
    | true => simp [count, gathered, next]
    | false =>
      have room := fits next fun first => several ⟨next, first⟩
      have small : hdr.fragmentOffset.toNat + 1 - defragmenter.fragments.length < 2 ^ 63 := by
        have bound := hdr.fragmentOffset.toNat_lt
        omega
      simp only [count, gathered, next, reserve, subUsize, if_pos room, if_pos small, bind,
        Except.bind, Bool.false_eq_true, if_false]
  simp only [gather, counted, bind, Except.bind]
  rfl

/-- What a defragmenter hands out, when it returns. -/
theorem defragment_eq (profile : Profile) (covers : defragmenter.Covers) (fits : defragmenter.Fits hdr)
    (something : defragmenter.payload hdr buf ≠ some []) :
    defragmenter.defragment profile hdr buf = .ok (defragmenter.advanced hdr buf,
      (defragmenter.payload hdr buf).map
        ({ hdr with flagNextFragment := false, fragmentOffset := 0 }, ·)) := by
  by_cases single : hdr.flagNextFragment = false ∧ hdr.fragmentOffset = 0
  · have same : ({ hdr with flagNextFragment := false, fragmentOffset := 0 } : TcpMigHeader) = hdr := by
      rw [← single.1, ← single.2]
    simp only [defragment, advanced, payload, if_pos single, Option.map_some, same]
  · simp only [payload, if_neg single] at something
    simp only [defragment, advanced, payload, if_neg single, gather_eq fits single, bind, Except.bind,
      release]
    split
    · rfl
    · rename_i complete
      rw [if_neg complete] at something
      have covered := covers.gathered hdr buf
      have counted : (defragmenter.gathered hdr buf).currentSize ≠ 0 := by
        intro nothing
        have empty : (defragmenter.gathered hdr buf).fragments.flatten = [] := by
          apply List.length_eq_zero_iff.mp
          unfold Covers at covered
          omega
        exact something (by rw [empty, nothing]; rfl)
      rw [join_eq counted covered]
      rfl

/-- A fragment of several that does not complete the count is stored, and nothing is handed out. -/
theorem defragment_waits (profile : Profile) (covers : defragmenter.Covers)
    (fits : defragmenter.Fits hdr)
    (stores : ¬ (hdr.flagNextFragment = false ∧ hdr.fragmentOffset = 0))
    (waits : (defragmenter.gathered hdr buf).totalFragments ≠
      some (defragmenter.gathered hdr buf).currentFragments) :
    defragmenter.defragment profile hdr buf = .ok (defragmenter.gathered hdr buf, none) := by
  have payload : defragmenter.payload hdr buf = none := by
    rw [TcpMigDefragmenter.payload, if_neg stores]
    exact if_pos waits
  rw [defragment_eq profile covers fits (by rw [payload]; exact (Option.some_ne_none _).symm), payload,
    advanced, if_neg stores, if_pos waits]
  rfl

/-- A fragment of several that completes the count is handed out with all that is stored. -/
theorem defragment_completes (profile : Profile) (covers : defragmenter.Covers)
    (fits : defragmenter.Fits hdr)
    (stores : ¬ (hdr.flagNextFragment = false ∧ hdr.fragmentOffset = 0))
    (complete : (defragmenter.gathered hdr buf).totalFragments =
      some (defragmenter.gathered hdr buf).currentFragments)
    (something : (defragmenter.gathered hdr buf).fragments.flatten ≠ []) :
    defragmenter.defragment profile hdr buf = .ok ((defragmenter.gathered hdr buf).reset,
      some ({ hdr with flagNextFragment := false, fragmentOffset := 0 },
        (defragmenter.gathered hdr buf).fragments.flatten ++
          List.replicate ((defragmenter.gathered hdr buf).currentSize -
            (defragmenter.gathered hdr buf).fragments.flatten.length) 0)) := by
  have reaches := not_not.mpr complete
  have payload : defragmenter.payload hdr buf =
      some ((defragmenter.gathered hdr buf).fragments.flatten ++
        List.replicate ((defragmenter.gathered hdr buf).currentSize -
          (defragmenter.gathered hdr buf).fragments.flatten.length) 0) := by
    rw [TcpMigDefragmenter.payload, if_neg stores]
    exact if_neg reaches
  have nonempty : defragmenter.payload hdr buf ≠ some [] := by
    rw [payload]
    intro nothing
    exact something (List.append_eq_nil_iff.mp (Option.some.inj nothing)).1
  rw [defragment_eq profile covers fits nonempty, payload, advanced, if_neg stores, if_neg reaches]
  rfl

/-- Nothing is held after a reset. -/
theorem Covers.reset (defragmenter : TcpMigDefragmenter) : defragmenter.reset.Covers := Nat.zero_le _

/-- Whatever a defragmenter does, the counted size covers what is stored. -/
theorem Covers.defragment {after : TcpMigDefragmenter} {whole : Option (TcpMigHeader × Buffer)}
    (covers : defragmenter.Covers)
    (returned : defragmenter.defragment profile hdr buf = .ok (after, whole)) : after.Covers := by
  unfold TcpMigDefragmenter.defragment at returned
  split at returned
  · cases returned
    exact .reset _
  obtain ⟨next, gathers, returned⟩ := bind_ok.mp returned
  obtain ⟨total, -, gathers⟩ := bind_ok.mp gathers
  cases gathers
  unfold release at returned
  split at returned
  · cases returned
    exact covers.gathered hdr buf
  · obtain ⟨joined, -, returned⟩ := bind_ok.mp returned
    cases returned
    exact .reset _

end TcpMigDefragmenter

end Capybara
