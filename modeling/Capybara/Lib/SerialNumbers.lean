import Mathlib.Data.BitVec

/-!
# Serial numbers on a circle

A counter of `width + 1` bits that wraps is a point on a circle. The only total
measurement is the number of forward steps from one point to another. A signed
difference orders two points, but the order is exact only while the points lie
less than half a turn apart; at exactly half a turn each point precedes the other.

Every comparison is reduced here to forward steps, and forward steps from a
common origin are ordinary natural numbers. Nothing below fixes the width.
-/

namespace SerialNumbers

variable {width : Nat}

/-- Forward steps from one point to another. -/
def ahead (origin point : BitVec (width + 1)) : Nat := (point - origin).toNat

/-- The signed-difference order: the first point minus the second is negative. -/
def before (left right : BitVec (width + 1)) : Bool := decide ((left - right).toInt < 0)

/-- The signed-difference order with equality. -/
def atMost (left right : BitVec (width + 1)) : Bool := decide ((left - right).toInt ≤ 0)

/-- Half a turn, written so that linear arithmetic sees both bounds. -/
theorem turn_eq : 2 ^ (width + 1) = 2 * 2 ^ width := by rw [Nat.pow_succ, Nat.mul_comm]

/-- A forward distance is always below one full turn. -/
theorem ahead_bound (origin point : BitVec (width + 1)) : ahead origin point < 2 * 2 ^ width := by
  rw [← turn_eq]
  exact (point - origin).isLt

/-- No step leads from a point to itself. -/
theorem ahead_self (origin : BitVec (width + 1)) : ahead origin origin = 0 := by
  simp [ahead]

/-- Two points are equal exactly when no step separates them. -/
theorem ahead_eq_zero (origin point : BitVec (width + 1)) :
    ahead origin point = 0 ↔ point = origin := by
  constructor
  · intro none
    have value : point - origin = 0#(width + 1) := BitVec.eq_of_toNat_eq (by simpa [ahead] using none)
    calc point = point - origin + origin := (BitVec.sub_add_cancel point origin).symm
      _ = origin := by rw [value, BitVec.zero_add]
  · rintro rfl
    exact ahead_self point

/-- Walking the measured distance arrives at the measured point. -/
theorem add_ahead (origin point : BitVec (width + 1)) :
    origin + BitVec.ofNat (width + 1) (ahead origin point) = point := by
  rw [ahead, BitVec.ofNat_toNat, BitVec.setWidth_eq, BitVec.add_comm, BitVec.sub_add_cancel]

/-- A walk measures its own length, reduced by whole turns. -/
theorem ahead_add (origin : BitVec (width + 1)) (steps : Nat) :
    ahead origin (origin + BitVec.ofNat (width + 1) steps) = steps % (2 * 2 ^ width) := by
  rw [ahead, BitVec.add_comm, BitVec.add_sub_cancel, BitVec.toNat_ofNat, turn_eq]

/-- A walk of less than a turn measures exactly its length. -/
theorem ahead_add_of_lt (origin : BitVec (width + 1)) (steps : Nat)
    (short : steps < 2 * 2 ^ width) :
    ahead origin (origin + BitVec.ofNat (width + 1) steps) = steps := by
  rw [ahead_add, Nat.mod_eq_of_lt short]

/-- Consecutive distances add up, reduced by whole turns. -/
theorem ahead_trans (first second third : BitVec (width + 1)) :
    ahead first third = (ahead first second + ahead second third) % (2 * 2 ^ width) := by
  have whole : first + BitVec.ofNat (width + 1) (ahead first second + ahead second third) = third := by
    rw [BitVec.ofNat_add, ← BitVec.add_assoc, add_ahead, add_ahead]
  calc ahead first third
      = ahead first (first + BitVec.ofNat (width + 1) (ahead first second + ahead second third)) := by
        rw [whole]
    _ = (ahead first second + ahead second third) % (2 * 2 ^ width) := ahead_add _ _

/-- From a common origin, the distance between two positions is their
difference whenever the second position is not behind the first. -/
theorem ahead_between (origin left right : BitVec (width + 1))
    (ordered : ahead origin left ≤ ahead origin right) :
    ahead left right = ahead origin right - ahead origin left := by
  have total := ahead_trans origin left right
  have leftBound := ahead_bound origin left
  have rightBound := ahead_bound origin right
  have stepBound := ahead_bound left right
  rcases Nat.lt_or_ge (ahead origin left + ahead left right) (2 * 2 ^ width) with inside | outside
  · rw [Nat.mod_eq_of_lt inside] at total
    omega
  · rw [Nat.mod_eq_sub_mod outside, Nat.mod_eq_of_lt (by omega)] at total
    omega

/-- A position behind the first is reached only after completing the turn. -/
theorem ahead_around (origin left right : BitVec (width + 1))
    (behind : ahead origin right < ahead origin left) :
    ahead left right = 2 * 2 ^ width - (ahead origin left - ahead origin right) := by
  have total := ahead_trans origin left right
  have leftBound := ahead_bound origin left
  have stepBound := ahead_bound left right
  rcases Nat.lt_or_ge (ahead origin left + ahead left right) (2 * 2 ^ width) with inside | outside
  · rw [Nat.mod_eq_of_lt inside] at total
    omega
  · rw [Nat.mod_eq_sub_mod outside, Nat.mod_eq_of_lt (by omega)] at total
    omega

/-- A signed reading is negative exactly from half a turn on. -/
theorem toInt_neg_iff (value : BitVec (width + 1)) : value.toInt < 0 ↔ 2 ^ width ≤ value.toNat := by
  have bound := value.isLt
  rw [BitVec.toInt_eq_toNat_cond]
  have turn : 2 ^ (width + 1) = 2 * 2 ^ width := turn_eq
  split <;> omega

/-- The signed order holds for one to half a turn of forward steps. -/
theorem before_iff (left right : BitVec (width + 1)) :
    before left right = true ↔ 1 ≤ ahead left right ∧ ahead left right ≤ 2 ^ width := by
  have back := ahead_trans left right left
  rw [ahead_self] at back
  have stepBound := ahead_bound left right
  have backBound := ahead_bound right left
  have half : 0 < 2 ^ width := Nat.two_pow_pos width
  rw [before, decide_eq_true_eq, toInt_neg_iff]
  change 2 ^ width ≤ ahead right left ↔ _
  rcases Nat.lt_or_ge (ahead left right + ahead right left) (2 * 2 ^ width) with inside | outside
  · rw [Nat.mod_eq_of_lt inside] at back
    omega
  · rw [Nat.mod_eq_sub_mod outside, Nat.mod_eq_of_lt (by omega)] at back
    omega

/-- With equality, the signed order holds for up to half a turn of forward steps. -/
theorem atMost_iff (left right : BitVec (width + 1)) :
    atMost left right = true ↔ ahead left right ≤ 2 ^ width := by
  have strict := before_iff left right
  have zero : (left - right).toInt = 0 ↔ ahead left right = 0 := by
    rw [ahead_eq_zero, ← BitVec.toInt_zero (w := width + 1), BitVec.toInt_inj]
    constructor
    · intro none
      have same := BitVec.sub_add_cancel left right
      rw [none, BitVec.zero_add] at same
      exact same
    · rintro rfl
      simp
  rw [before, decide_eq_true_eq] at strict
  rw [atMost, decide_eq_true_eq]
  have half : 0 < 2 ^ width := Nat.two_pow_pos width
  omega

/-- Positions less than half a turn apart are ordered as natural numbers. -/
theorem before_iff_lt (origin left right : BitVec (width + 1))
    (near : ahead origin left < ahead origin right + 2 ^ width)
    (near' : ahead origin right ≤ ahead origin left + 2 ^ width) :
    before left right = true ↔ ahead origin left < ahead origin right := by
  rw [before_iff]
  rcases Nat.lt_or_ge (ahead origin right) (ahead origin left) with behind | ordered
  · rw [ahead_around origin left right behind]
    omega
  · rw [ahead_between origin left right ordered]
    omega

/-- The same for the order with equality. -/
theorem atMost_iff_le (origin left right : BitVec (width + 1))
    (near : ahead origin left < ahead origin right + 2 ^ width)
    (near' : ahead origin right ≤ ahead origin left + 2 ^ width) :
    atMost left right = true ↔ ahead origin left ≤ ahead origin right := by
  rw [atMost_iff]
  rcases Nat.lt_or_ge (ahead origin right) (ahead origin left) with behind | ordered
  · rw [ahead_around origin left right behind]
    omega
  · rw [ahead_between origin left right ordered]
    omega

end SerialNumbers
