import Capybara.Runtime.Machine

/-!
# Data buffers and watched values

`DataBuffer` shares one allocation between clones and narrows its own view of
it. Only the viewed bytes are observable, so a buffer is the list of those
bytes; `adjust` and `trim` panic when asked for more bytes than the view holds.

A `WatchedValue` completes the futures registered on it whenever it is set, also
when the new value equals the old one. The number of sets so far is kept beside
the value: a future registered at one count is ready at every other.
-/

namespace Capybara

/-- The bytes a buffer shows. -/
abbrev Buffer := List UInt8

namespace Buffer

/-- `DataBuffer::adjust`: remove bytes from the front. -/
def adjust (buffer : Buffer) (nbytes : Nat) : Checked Buffer :=
  if nbytes > buffer.length then .error .adjustPastEnd else .ok (buffer.drop nbytes)

/-- `DataBuffer::trim`: remove bytes from the end. -/
def trim (buffer : Buffer) (nbytes : Nat) : Checked Buffer :=
  if nbytes > buffer.length then .error .trimPastBeginning
  else .ok (buffer.take (buffer.length - nbytes))

/-- Bytes that are there can be removed from the front. -/
theorem adjust_of_le {buffer : Buffer} {nbytes : Nat} (enough : nbytes ≤ buffer.length) :
    buffer.adjust nbytes = .ok (buffer.drop nbytes) := by
  simp [adjust, Nat.not_lt.mpr enough]

/-- Bytes that are there can be removed from the end. -/
theorem trim_of_le {buffer : Buffer} {nbytes : Nat} (enough : nbytes ≤ buffer.length) :
    buffer.trim nbytes = .ok (buffer.take (buffer.length - nbytes)) := by
  simp [trim, Nat.not_lt.mpr enough]

/-- What was removed from the front was there. -/
theorem adjust_ok {buffer result : Buffer} {nbytes : Nat}
    (adjusted : buffer.adjust nbytes = .ok result) :
    nbytes ≤ buffer.length ∧ result = buffer.drop nbytes := by
  unfold adjust at adjusted
  split at adjusted
  · cases adjusted
  · exact ⟨by omega, (Except.ok.inj adjusted).symm⟩

/-- What was removed from the end was there. -/
theorem trim_ok {buffer result : Buffer} {nbytes : Nat}
    (trimmed : buffer.trim nbytes = .ok result) :
    nbytes ≤ buffer.length ∧ result = buffer.take (buffer.length - nbytes) := by
  unfold trim at trimmed
  split at trimmed
  · cases trimmed
  · exact ⟨by omega, (Except.ok.inj trimmed).symm⟩

/-- Removing bytes from the front fails with its own panic only. -/
theorem adjust_avoids {bad : Fault → Bool} (buffer : Buffer) (nbytes : Nat)
    (good : bad .adjustPastEnd = false) : Avoids bad (buffer.adjust nbytes) := by
  unfold adjust
  split
  · exact .error good
  · exact .ok _

/-- Removing bytes from the end fails with its own panic only. -/
theorem trim_avoids {bad : Fault → Bool} (buffer : Buffer) (nbytes : Nat)
    (good : bad .trimPastBeginning = false) : Avoids bad (buffer.trim nbytes) := by
  unfold trim
  split
  · exact .error good
  · exact .ok _

end Buffer

/-- `WatchedValue`: the value and how often it has been set. That the futures, with their
nodes and their list, are ready when this count says so is `Watched.serves_exact`. -/
structure WatchedValue (α : Type) where
  value : α
  changes : Nat := 0
  deriving DecidableEq, Repr

/-- `WatchedValue::set`. -/
def WatchedValue.set {α : Type} (watched : WatchedValue α) (value : α) : WatchedValue α :=
  { value, changes := watched.changes + 1 }

/-- A value that is set is the one that is read. -/
@[simp] theorem WatchedValue.set_value {α : Type} (watched : WatchedValue α) (value : α) :
    (watched.set value).value = value := rfl

end Capybara
