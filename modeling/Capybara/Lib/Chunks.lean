import Mathlib.Data.List.Basic

/-!
# Cutting a list into chunks

A list is cut into chunks of a given size, the last one possibly shorter. There is
always a chunk, so an empty list has an empty one. The chunks give back the list, and
their number is bounded by its length.
-/

namespace Chunks

variable {α : Type}

/-- The chunks of a list, of the given positive size. -/
def chunks (size : Nat) (elements : List α) : List (List α) :=
  if _ : size = 0 ∨ elements.length ≤ size then [elements]
  else elements.take size :: chunks size (elements.drop size)
termination_by elements.length
decreasing_by
  rw [List.length_drop]
  omega

variable {size : Nat} {elements : List α}

/-- What is no longer than a chunk is one. -/
theorem chunks_short (short : elements.length ≤ size) : chunks size elements = [elements] := by
  rw [chunks, dif_pos (.inr short)]

/-- A longer list begins with a full chunk. -/
theorem chunks_long (positive : 0 < size) (long : size < elements.length) :
    chunks size elements = elements.take size :: chunks size (elements.drop size) := by
  rw [chunks, dif_neg]
  omega

/-- There is at least one chunk, an empty one if there are no elements. -/
theorem chunks_ne_nil (size : Nat) (elements : List α) : chunks size elements ≠ [] := by
  rw [chunks]
  split
  · exact List.cons_ne_nil _ _
  · exact List.cons_ne_nil _ _

/-- Nothing is lost. -/
theorem chunks_flatten (size : Nat) (elements : List α) : (chunks size elements).flatten = elements := by
  induction elements using chunks.induct size with
  | case1 elements short =>
    rw [chunks, dif_pos short]
    exact List.append_nil _
  | case2 elements long inductionHypothesis =>
    rw [chunks, dif_neg long, List.flatten_cons, inductionHypothesis]
    exact List.take_append_drop _ _

/-- As many chunks of the given size as are needed. -/
theorem chunks_length_le {count : Nat} (positive : 0 < count)
    (fits : elements.length ≤ size * count) : (chunks size elements).length ≤ count := by
  induction count generalizing elements with
  | zero => omega
  | succ count inductionHypothesis =>
    rw [chunks]
    split
    · rw [List.length_singleton]
      omega
    rename_i long
    rw [List.length_cons]
    have further : 0 < count := by
      rcases Nat.eq_zero_or_pos count with rfl | further
      · rw [Nat.zero_add, Nat.mul_one] at fits
        omega
      · exact further
    have rest : (elements.drop size).length ≤ size * count := by
      rw [List.length_drop]
      rw [Nat.mul_add, Nat.mul_one] at fits
      omega
    have behind := inductionHypothesis further rest
    omega

/-- There are never more chunks than elements, but for an empty list. -/
theorem chunks_length_le_length (positive : 0 < size) (elements : List α) :
    (chunks size elements).length ≤ elements.length + 1 := by
  refine chunks_length_le (Nat.succ_pos _) ?_
  calc elements.length ≤ elements.length + 1 := Nat.le_succ _
    _ ≤ size * (elements.length + 1) := Nat.le_mul_of_pos_left _ positive

/-- Exactly as many chunks as are needed. -/
theorem chunks_length (positive : 0 < size) (elements : List α) :
    (chunks size elements).length = max 1 ((elements.length + size - 1) / size) := by
  induction elements using chunks.induct size with
  | case1 elements short =>
    rw [chunks, dif_pos short, List.length_singleton]
    have within : elements.length ≤ size := short.resolve_left (Nat.pos_iff_ne_zero.mp positive)
    have few : (elements.length + size - 1) / size ≤ 1 := by
      refine Nat.le_of_lt_succ (Nat.div_lt_of_lt_mul ?_)
      omega
    omega
  | case2 elements long inductionHypothesis =>
    have more : size < elements.length := by omega
    have rest : (elements.drop size).length + size - 1 + size = elements.length + size - 1 := by
      rw [List.length_drop]
      omega
    have counted := Nat.add_div_right ((elements.drop size).length + size - 1) positive
    rw [rest] at counted
    have some_ : 0 < ((elements.drop size).length + size - 1) / size := by
      refine Nat.div_pos ?_ positive
      rw [List.length_drop]
      omega
    rw [chunks, dif_neg long, List.length_cons, inductionHypothesis, counted]
    omega

/-- No chunk is longer than the given size. -/
theorem chunks_size (positive : 0 < size) (elements : List α) :
    ∀ chunk ∈ chunks size elements, chunk.length ≤ size := by
  induction elements using chunks.induct size with
  | case1 elements short =>
    rw [chunks, dif_pos short]
    intro chunk member
    obtain rfl := List.mem_singleton.mp member
    omega
  | case2 elements long inductionHypothesis =>
    rw [chunks, dif_neg long]
    intro chunk member
    obtain rfl | member := List.mem_cons.mp member
    · exact List.length_take_le _ _
    · exact inductionHypothesis chunk member

/-- The chunks of something are not empty. -/
theorem chunks_filled (positive : 0 < size) (something : elements ≠ []) :
    ∀ chunk ∈ chunks size elements, chunk ≠ [] := by
  induction elements using chunks.induct size with
  | case1 elements short =>
    rw [chunks, dif_pos short]
    intro chunk member
    obtain rfl := List.mem_singleton.mp member
    exact something
  | case2 elements long inductionHypothesis =>
    rw [chunks, dif_neg long]
    intro chunk member
    have longer : size < elements.length := by omega
    obtain rfl | member := List.mem_cons.mp member
    · rw [ne_eq, List.take_eq_nil_iff, not_or]
      exact ⟨Nat.pos_iff_ne_zero.mp positive, something⟩
    · refine inductionHypothesis ?_ chunk member
      rw [ne_eq, List.drop_eq_nil_iff]
      omega

end Chunks
