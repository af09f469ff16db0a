import Capybara.TcpMig.Header

/-!
# Slices and indices of a buffer

A slice or an index that is not inside the buffer panics. The parsers check lengths first and
read numbers from slices of fixed places; inside the buffer such a read is the number at its place.
-/

namespace Capybara

open Wire

namespace TcpMigHeader

variable {buf : Buffer} {start stop : Nat}

/-- `&buf[start..stop]`. -/
def range (buf : Buffer) (start stop : Nat) : Checked Buffer :=
  if start ≤ stop ∧ stop ≤ buf.length then .ok ((buf.drop start).take (stop - start))
  else .error .sliceOutOfRange

/-- `buf[index]`. -/
def byteAt (buf : Buffer) (index : Nat) : Checked UInt8 :=
  match buf[index]? with
  | some byte => .ok byte
  | none => .error .sliceOutOfRange

/-- `NetworkEndian::read_u16`. -/
def readU16 (buf : Buffer) : Checked UInt16 := do
  let bytes ← range buf 0 2
  .ok (UInt16.ofNat (ofBigEndian bytes))

/-- `NetworkEndian::read_u32`. -/
def readU32 (buf : Buffer) : Checked Nat := do
  let bytes ← range buf 0 4
  .ok (ofBigEndian bytes)

/-- `read_u16` of a range. -/
def readU16In (buf : Buffer) (start stop : Nat) : Checked UInt16 := do
  let bytes ← range buf start stop
  readU16 bytes

/-- `read_u32` of a range. -/
def readU32In (buf : Buffer) (start stop : Nat) : Checked Nat := do
  let bytes ← range buf start stop
  readU32 bytes

/-- A range inside the buffer. -/
theorem range_inside (ordered : start ≤ stop) (inside : stop ≤ buf.length) :
    range buf start stop = .ok ((buf.drop start).take (stop - start)) := if_pos ⟨ordered, inside⟩

/-- An index inside the buffer. -/
theorem byteAt_inside {index : Nat} (inside : index < buf.length) :
    byteAt buf index = .ok (buf.getD index 0) := by
  rw [byteAt, List.getD_eq_getElem?_getD, List.getElem?_eq_getElem inside]
  rfl

/-- A word inside the buffer. -/
theorem readU16In_inside (inside : start + 2 ≤ buf.length) :
    readU16In buf start (start + 2) = .ok (readU16At buf start) := by
  have size : ((buf.drop start).take 2).length = 2 := by
    rw [List.length_take, List.length_drop]
    omega
  rw [readU16In, range_inside (Nat.le_add_right _ _) inside, Nat.add_sub_cancel_left]
  dsimp only [bind, Except.bind]
  rw [readU16, range_inside (Nat.zero_le _) (Nat.le_of_eq size.symm)]
  dsimp only [bind, Except.bind]
  rw [List.drop_zero, List.take_take, readU16At]
  rfl

/-- Four bytes inside the buffer. -/
theorem readU32In_inside (inside : start + 4 ≤ buf.length) :
    readU32In buf start (start + 4) = .ok (readU32At buf start) := by
  have size : ((buf.drop start).take 4).length = 4 := by
    rw [List.length_take, List.length_drop]
    omega
  rw [readU32In, range_inside (Nat.le_add_right _ _) inside, Nat.add_sub_cancel_left]
  dsimp only [bind, Except.bind]
  rw [readU32, range_inside (Nat.zero_le _) (Nat.le_of_eq size.symm)]
  dsimp only [bind, Except.bind]
  rw [List.drop_zero, List.take_take, readU32At]
  rfl

/-- The front of a buffer. -/
theorem range_front (inside : stop ≤ buf.length) : range buf 0 stop = .ok (buf.take stop) :=
  range_inside (Nat.zero_le _) inside

/-- The rest of a buffer. -/
theorem range_rest (inside : start ≤ buf.length) :
    range buf start buf.length = .ok (buf.drop start) := by
  rw [range_inside inside (Nat.le_refl _), List.take_of_length_le (by rw [List.length_drop])]

end TcpMigHeader

end Capybara
