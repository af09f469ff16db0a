import Mathlib.Data.List.Basic

/-!
# Slices of a stream

A slice of a list at an offset: consecutive elements, all inside the list. The
empty slice is at every offset up to the end. Slices of slices are slices, and a
prefix continued by the slice at its end is a longer prefix.
-/

namespace Slices

universe u
variable {α : Type u} {stream part : List α} {offset : Nat}

/-- The elements of `part` are those of `stream` from `offset` on. -/
structure At (stream : List α) (offset : Nat) (part : List α) : Prop where
  inside : offset + part.length ≤ stream.length
  same : part = (stream.drop offset).take part.length

/-- A slice without its front is a slice that begins later. -/
theorem At.drop (slice : At stream offset part) {count : Nat} (within : count ≤ part.length) :
    At stream (offset + count) (part.drop count) := by
  have inside := slice.inside
  constructor
  · simp only [List.length_drop]
    omega
  · conv => lhs; rw [slice.same]
    rw [List.length_drop, ← List.drop_drop, List.drop_take]

/-- A slice without its end is a slice that begins where it did. -/
theorem At.take (slice : At stream offset part) (count : Nat) : At stream offset (part.take count) := by
  have inside := slice.inside
  constructor
  · simp only [List.length_take]
    omega
  · conv => lhs; rw [slice.same]
    rw [List.take_take, List.length_take]

/-- A prefix and the slice at its end make a longer prefix. -/
theorem At.append_take (slice : At stream offset part) :
    stream.take offset ++ part = stream.take (offset + part.length) := by
  conv => lhs; rw [slice.same]
  rw [List.take_add]

/-- A slice stays a slice of every longer stream. -/
theorem At.extend (slice : At stream offset part) (more : List α) : At (stream ++ more) offset part := by
  have inside := slice.inside
  constructor
  · rw [List.length_append]
    omega
  · rw [List.drop_append_of_le_length (by omega), List.take_append_of_le_length
      (by rw [List.length_drop]; omega)]
    exact slice.same

/-- A part of what is left of the stream from an offset on. -/
theorem At.of_flatten {before after : List (List α)}
    (split : (before ++ part :: after).flatten = stream.drop offset) (some : part ≠ []) :
    At stream (offset + before.flatten.length) part := by
  have lengths := congrArg List.length split
  have occupied := List.length_pos_iff.mpr some
  simp only [List.flatten_append, List.flatten_cons, List.length_append, List.length_drop] at lengths
  constructor
  · omega
  · rw [← List.drop_drop, ← split]
    simp

end Slices
