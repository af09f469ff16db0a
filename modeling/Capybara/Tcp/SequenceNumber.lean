import Capybara.Lib.SerialNumbers

/-!
# TCP sequence numbers

`sequence_number.rs` stores a sequence number as a `u32`, adds and subtracts
with wrapping, and orders two numbers by the sign of their wrapped difference.
The four comparison methods are separate functions there and here: at exactly
half the sequence space `a < b` and `b < a` both hold, while `a > b` does not.
-/

namespace Capybara

/-- `SeqNumber`. -/
structure SeqNumber where
  value : BitVec 32
  deriving DecidableEq, Repr

namespace SeqNumber

/-- `SeqNumber::from(u32)`. -/
def ofU32 (value : Nat) : SeqNumber := ⟨BitVec.ofNat 32 value⟩

/-- `u32::from(SeqNumber)`. -/
def toU32 (number : SeqNumber) : Nat := number.value.toNat

instance : Add SeqNumber := ⟨fun left right => ⟨left.value + right.value⟩⟩

instance : Sub SeqNumber := ⟨fun left right => ⟨left.value - right.value⟩⟩

/-- `a < b`: the wrapped difference, read as `i32`, is negative. -/
def lt (left right : SeqNumber) : Bool := decide ((left.value - right.value).toInt < 0)

/-- `a <= b`. -/
def le (left right : SeqNumber) : Bool := decide ((left.value - right.value).toInt ≤ 0)

/-- `a >= b`. -/
def ge (left right : SeqNumber) : Bool := decide ((left.value - right.value).toInt ≥ 0)

/-- Forward steps from one sequence number to another. -/
def ahead (origin point : SeqNumber) : Nat := SerialNumbers.ahead origin.value point.value

/-- The sequence number a given number of steps further on. -/
def advanced (origin : SeqNumber) (steps : Nat) : SeqNumber := origin + ofU32 steps

/-- A difference of sequence numbers, read as a number, is the distance from one to the other.
-/
theorem toU32_sub (point origin : SeqNumber) : (point - origin).toU32 = ahead origin point := rfl

/-- A sequence number is its value. -/
theorem ext {left right : SeqNumber} (same : left.value = right.value) : left = right := by
  cases left; cases right; cases same; rfl

/-- Adding a number advances by as many steps. -/
theorem add_ofU32 (origin : SeqNumber) (steps : Nat) : origin + ofU32 steps = origin.advanced steps := rfl

/-- A distance is below one turn. -/
theorem ahead_lt (origin point : SeqNumber) : ahead origin point < 2 ^ 32 :=
  SerialNumbers.ahead_bound origin.value point.value

/-- No step leads from a number to itself. -/
@[simp] theorem ahead_self (origin : SeqNumber) : ahead origin origin = 0 :=
  SerialNumbers.ahead_self origin.value

/-- Only a number itself is no step ahead. -/
theorem ahead_eq_zero {origin point : SeqNumber} : ahead origin point = 0 ↔ point = origin := by
  rw [ahead, SerialNumbers.ahead_eq_zero]
  exact ⟨ext, fun same => same ▸ rfl⟩

/-- No step leads nowhere. -/
@[simp] theorem advanced_zero (origin : SeqNumber) : origin.advanced 0 = origin :=
  ext (BitVec.add_zero origin.value)

/-- Steps add up. -/
theorem advanced_advanced (origin : SeqNumber) (first second : Nat) :
    (origin.advanced first).advanced second = origin.advanced (first + second) := by
  apply ext
  change origin.value + BitVec.ofNat 32 first + BitVec.ofNat 32 second =
    origin.value + BitVec.ofNat 32 (first + second)
  rw [BitVec.ofNat_add, BitVec.add_assoc]

/-- Walking the distance arrives at the point. -/
theorem advanced_ahead (origin point : SeqNumber) : origin.advanced (ahead origin point) = point :=
  ext (SerialNumbers.add_ahead origin.value point.value)

/-- A walk of less than a turn is as long as its distance. -/
theorem ahead_advanced_of_lt (origin : SeqNumber) {steps : Nat} (short : steps < 2 ^ 32) :
    ahead origin (origin.advanced steps) = steps :=
  SerialNumbers.ahead_add_of_lt origin.value steps short

/-- Distances add up, reduced by whole turns. -/
theorem ahead_trans (first second third : SeqNumber) :
    ahead first third = (ahead first second + ahead second third) % 2 ^ 32 :=
  SerialNumbers.ahead_trans first.value second.value third.value

/-- Seen from a common origin, the distance to a point that is not behind is the difference of
the distances. -/
theorem ahead_between (origin : SeqNumber) {left right : SeqNumber}
    (ordered : ahead origin left ≤ ahead origin right) :
    ahead left right = ahead origin right - ahead origin left :=
  SerialNumbers.ahead_between origin.value left.value right.value ordered

/-- To a point that is behind, the distance leads once around. -/
theorem ahead_around (origin : SeqNumber) {left right : SeqNumber}
    (behind : ahead origin right < ahead origin left) :
    ahead left right = 2 ^ 32 - (ahead origin left - ahead origin right) :=
  SerialNumbers.ahead_around origin.value left.value right.value behind

/-- Moving the origin forward shortens the distance to what lies ahead of it. -/
theorem ahead_from_advanced {origin point : SeqNumber} {steps : Nat}
    (within : steps ≤ ahead origin point) :
    ahead (origin.advanced steps) point = ahead origin point - steps := by
  have short : steps < 2 ^ 32 := Nat.lt_of_le_of_lt within (ahead_lt origin point)
  have reached := ahead_advanced_of_lt origin short
  rw [ahead_between origin (by omega), reached]

/-- Moving the point forward lengthens the distance to it. -/
theorem ahead_to_advanced {origin point : SeqNumber} {steps : Nat}
    (short : ahead origin point + steps < 2 ^ 32) :
    ahead origin (point.advanced steps) = ahead origin point + steps := by
  conv => lhs; rw [← advanced_ahead origin point, advanced_advanced]
  exact ahead_advanced_of_lt origin short

/-- Steps back undo steps ahead. -/
theorem sub_ofU32 (origin : SeqNumber) (steps back : Nat) (within : back ≤ steps) :
    origin.advanced steps - ofU32 back = origin.advanced (steps - back) := by
  apply ext
  change origin.value + BitVec.ofNat 32 steps - BitVec.ofNat 32 back =
    origin.value + BitVec.ofNat 32 (steps - back)
  have split : BitVec.ofNat 32 steps = BitVec.ofNat 32 (steps - back) + BitVec.ofNat 32 back := by
    rw [← BitVec.ofNat_add, Nat.sub_add_cancel within]
  rw [split, ← BitVec.add_assoc, BitVec.add_sub_cancel]

/-- Stepping back and forward by the same amount returns. -/
theorem advanced_sub_ofU32 (point : SeqNumber) (back : Nat) :
    (point - ofU32 back).advanced back = point :=
  ext (BitVec.sub_add_cancel point.value (BitVec.ofNat 32 back))

/-- As many steps lead to one point only from one point. -/
theorem advanced_injective {left right : SeqNumber} (steps : Nat)
    (same : left.advanced steps = right.advanced steps) : left = right := by
  apply ext
  exact (BitVec.add_left_inj _).mp (congrArg value same)

/-- The distances in the two directions complete a turn, unless both are zero. -/
theorem ahead_back (left right : SeqNumber) :
    (ahead left right = 0 ∧ ahead right left = 0) ∨ ahead left right + ahead right left = 2 ^ 32 := by
  have back := ahead_trans left right left
  have forward := ahead_lt left right
  have backward := ahead_lt right left
  rw [ahead_self] at back
  omega

/-- `a < b` holds for one to half the sequence space of forward steps. -/
theorem lt_iff (left right : SeqNumber) :
    left.lt right = true ↔ 1 ≤ ahead left right ∧ ahead left right ≤ 2 ^ 31 :=
  SerialNumbers.before_iff left.value right.value

/-- `a <= b` holds for up to half the sequence space of forward steps. -/
theorem le_iff (left right : SeqNumber) : left.le right = true ↔ ahead left right ≤ 2 ^ 31 :=
  SerialNumbers.atMost_iff left.value right.value

/-- `a >= b` is the negation of `a < b`. -/
theorem ge_eq (left right : SeqNumber) : left.ge right = !left.lt right := by
  simp only [ge, lt, ← decide_not, Int.not_lt, ge_iff_le]

/-- Positions less than half the space apart compare as natural numbers. -/
theorem lt_iff_of_near (origin left right : SeqNumber)
    (near : ahead origin left < ahead origin right + 2 ^ 31)
    (near' : ahead origin right ≤ ahead origin left + 2 ^ 31) :
    left.lt right = true ↔ ahead origin left < ahead origin right :=
  SerialNumbers.before_iff_lt origin.value left.value right.value near near'

/-- Within half a turn the order of the source is that of the distances. -/
theorem le_iff_of_near (origin left right : SeqNumber)
    (near : ahead origin left < ahead origin right + 2 ^ 31)
    (near' : ahead origin right ≤ ahead origin left + 2 ^ 31) :
    left.le right = true ↔ ahead origin left ≤ ahead origin right :=
  SerialNumbers.atMost_iff_le origin.value left.value right.value near near'

/-- Half the space apart, each number precedes the other and neither exceeds it. -/
example : (ofU32 0).lt (ofU32 0x80000000) = true ∧ (ofU32 0x80000000).lt (ofU32 0) = true ∧
    (ofU32 0).ge (ofU32 0x80000000) = false := by decide

end SeqNumber

end Capybara
