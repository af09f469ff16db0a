import Mathlib.Logic.Function.Basic

/-!
# Stateful registers

A register array is memory that a packet can reach once: a register action is applied to
the value of one cell, replaces it and returns something. The other cells keep their
values.
-/

namespace Registers

universe u v w
variable {ι : Type u} {ν : Type v} {ω : Type w} [DecidableEq ι]

/-- One cell for each index. -/
abbrev Register (ι : Type u) (ν : Type v) := ι → ν

/-- What is made of the value of a cell: the new value, and the value returned. -/
abbrev RegisterAction (ν : Type v) (ω : Type w) := ν → ν × ω

namespace Register

/-- `execute` of a register action on the cell of an index. -/
def execute (register : Register ι ν) (action : RegisterAction ν ω) (index : ι) :
    Register ι ν × ω :=
  (Function.update register index (action (register index)).1, (action (register index)).2)

variable (register : Register ι ν) (action : RegisterAction ν ω) (index : ι)

/-- An action returns what it makes of the value at its index. -/
@[simp] theorem execute_returned :
    (register.execute action index).2 = (action (register index)).2 := rfl

/-- An action writes the value at its index. -/
@[simp] theorem execute_cell :
    (register.execute action index).1 index = (action (register index)).1 :=
  Function.update_self _ _ _

/-- An action that only reads leaves the register alone. -/
theorem execute_read (reads : ∀ value, (action value).1 = value) :
    (register.execute action index).1 = register := by
  rw [execute, reads]
  exact Function.update_eq_self _ _

/-- An action that only computes something from the value. -/
theorem execute_keep (result : ν → ω) :
    register.execute (fun value => (value, result value)) index =
      (register, result (register index)) :=
  Prod.ext (execute_read _ _ _ fun _ => rfl) rfl

end Register

end Registers
