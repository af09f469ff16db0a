import Mathlib.Algebra.Ring.Nat
import Mathlib.Data.List.Basic

/-!
# Queues with an end marker

A queue of buffers in which an empty buffer stands for the end of the stream. The
marker takes up one number of the sequence space, every other buffer as many as
it has elements. A queue is in order when nothing follows a marker; then it has at
most one, and the numbers it takes up are its elements and the marker.
-/

namespace EndMarkers

universe u
variable {α : Type u} {buffers front rest : List (List α)} {buffer left right : List α}

/-- The numbers that a buffer takes up. -/
def span (buffer : List α) : Nat := if buffer.length == 0 then 1 else buffer.length

/-- The numbers that a queue takes up. -/
def spans (buffers : List (List α)) : Nat := (buffers.map span).sum

/-- Nothing follows an end marker. -/
def MarkerLast : List (List α) → Prop
  | [] => True
  | buffer :: rest => (buffer = [] → rest = []) ∧ MarkerLast rest

/-- A marker counts for one. -/
@[simp] theorem span_nil : span ([] : List α) = 1 := rfl

/-- Data counts for its length. -/
theorem span_of_ne (data : buffer ≠ []) : span buffer = buffer.length := by
  simp [span, data]

/-- Every buffer counts for something. -/
theorem span_pos (buffer : List α) : 0 < span buffer := by
  unfold span
  split
  · exact Nat.one_pos
  · rename_i data
    exact Nat.pos_of_ne_zero (by simpa using data)

/-- An empty queue counts for nothing. -/
@[simp] theorem spans_nil : spans ([] : List (List α)) = 0 := rfl

/-- The first buffer counts, and the others do. -/
@[simp] theorem spans_cons (buffer : List α) (rest : List (List α)) :
    spans (buffer :: rest) = span buffer + spans rest := by
  simp [spans]

/-- Two queues one behind the other count for what they count for. -/
@[simp] theorem spans_append (front rest : List (List α)) :
    spans (front ++ rest) = spans front + spans rest := by
  simp [spans]

/-- Only the empty queue takes up nothing. -/
theorem spans_eq_zero : spans buffers = 0 ↔ buffers = [] := by
  cases buffers with
  | nil => simp
  | cons buffer rest =>
    have occupied := span_pos buffer
    simp only [spans_cons, reduceCtorEq, iff_false]
    omega

/-- Without a marker the numbers are the elements. -/
theorem spans_data (data : [] ∉ buffers) : spans buffers = buffers.flatten.length := by
  induction buffers with
  | nil => rfl
  | cons buffer rest inductionHypothesis =>
    obtain ⟨own, further⟩ := not_or.mp (mt List.mem_cons.mpr data)
    rw [spans_cons, span_of_ne (Ne.symm own), inductionHypothesis further, List.flatten_cons,
      List.length_append]

/-- Cutting a buffer in two keeps the numbers. -/
theorem span_append (data : left ≠ []) (data' : right ≠ []) :
    span (left ++ right) = span left + span right := by
  rw [span_of_ne data, span_of_ne data', span_of_ne (by simp [data]), List.length_append]

/-- Two queues one behind the other have the marker last if each has, and nothing is behind a
marker in the first one. -/
theorem markerLast_append :
    MarkerLast (front ++ rest) ↔
      MarkerLast front ∧ MarkerLast rest ∧ ([] ∈ front → rest = []) := by
  induction front with
  | nil => simp [MarkerLast]
  | cons buffer front inductionHypothesis =>
    rw [List.cons_append, MarkerLast, MarkerLast, inductionHypothesis, List.mem_cons]
    constructor
    · rintro ⟨own, ordered, ordered', further⟩
      refine ⟨⟨fun marker => (List.append_eq_nil_iff.mp (own marker)).1, ordered⟩, ordered', ?_⟩
      rintro (marker | earlier)
      · exact (List.append_eq_nil_iff.mp (own marker.symm)).2
      · exact further earlier
    · rintro ⟨⟨own, ordered⟩, ordered', further⟩
      refine ⟨fun marker => ?_, ordered, ordered', fun earlier => further (.inr earlier)⟩
      rw [own marker, further (.inl marker.symm)]
      rfl

/-- With a marker there is one number more. -/
theorem spans_marked (ordered : MarkerLast buffers) (marked : [] ∈ buffers) :
    spans buffers = buffers.flatten.length + 1 := by
  induction buffers with
  | nil => cases marked
  | cons buffer rest inductionHypothesis =>
    obtain ⟨own, ordered⟩ := ordered
    rcases List.mem_cons.mp marked with marker | later
    · rw [own marker.symm, ← marker]
      rfl
    · have data : buffer ≠ [] := by
        intro marker
        rw [own marker] at later
        cases later
      rw [spans_cons, span_of_ne data, inductionHypothesis ordered later, List.flatten_cons,
        List.length_append]
      omega

/-- Anything may follow a queue without a marker. -/
theorem MarkerLast.push (data : [] ∉ buffers) (buffer : List α) : MarkerLast (buffers ++ [buffer]) := by
  induction buffers with
  | nil => simp [MarkerLast]
  | cons first rest inductionHypothesis =>
    obtain ⟨own, further⟩ := not_or.mp (mt List.mem_cons.mpr data)
    exact ⟨fun marker => absurd marker.symm own, inductionHypothesis further⟩

/-- A buffer with data may be cut in two. -/
theorem MarkerLast.cut (ordered : MarkerLast (front ++ (left ++ right) :: rest)) (data : left ≠ [])
    (data' : right ≠ []) : MarkerLast (front ++ left :: right :: rest) := by
  obtain ⟨before, ⟨-, after⟩, further⟩ := markerLast_append.mp ordered
  refine markerLast_append.mpr ⟨before, ⟨fun marker => absurd marker data,
    fun marker => absurd marker data', after⟩, fun earlier => ?_⟩
  cases further earlier

end EndMarkers
