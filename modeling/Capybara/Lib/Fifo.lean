import Mathlib.Data.List.Basic
import Mathlib.Data.Nat.ModEq

/-!
# Bounded queues in cyclic storage

A bounded queue that is served first in, first out, as a log of what was put into it and
taken from it. Whatever the log, the items taken followed by those still held are the items
put in, in that order, and never more than the capacity is held.

The second part stores such a queue in cells used cyclically: the item at a position of the
queue is in the cell of that number past the start, modulo the number of cells. A free cell
may be written without harm, and a queue that leaves a cell free can take one more item.
-/

namespace Fifo

variable {τ : Type}

/-- What happens to a queue. -/
inductive Event (τ : Type) where
  | enqueue (item : τ)
  | dequeue (item : τ)
  deriving DecidableEq, Repr

/-- The queue that the events leave, most recent first, when each is possible: an item is
put in only where there is room, and what is taken is the first item held. -/
inductive Log (capacity : Nat) : List (Event τ) → List τ → Prop where
  | nil : Log capacity [] []
  | enqueue {events : List (Event τ)} {queue : List τ} (item : τ)
      (earlier : Log capacity events queue) (room : queue.length < capacity) :
      Log capacity (.enqueue item :: events) (queue ++ [item])
  | dequeue {events : List (Event τ)} {queue : List τ} (item : τ)
      (earlier : Log capacity events (item :: queue)) :
      Log capacity (.dequeue item :: events) queue

/-- The items put in, in the order of time. -/
def enqueued : List (Event τ) → List τ
  | [] => []
  | .enqueue item :: events => enqueued events ++ [item]
  | .dequeue _ :: events => enqueued events

/-- The items taken, in the order of time. -/
def dequeued : List (Event τ) → List τ
  | [] => []
  | .enqueue _ :: events => dequeued events
  | .dequeue item :: events => dequeued events ++ [item]

namespace Log

variable {capacity : Nat} {events : List (Event τ)} {queue : List τ}

/-- Nothing is lost, repeated or overtaken. -/
theorem conserved (log : Log capacity events queue) :
    enqueued events = dequeued events ++ queue := by
  induction log with
  | nil => rfl
  | enqueue item earlier room inductionHypothesis =>
    rw [enqueued, dequeued, inductionHypothesis, List.append_assoc]
  | dequeue item earlier inductionHypothesis =>
    rw [enqueued, dequeued, inductionHypothesis, List.append_assoc]
    rfl

/-- The capacity is never exceeded. -/
theorem bounded (log : Log capacity events queue) : queue.length ≤ capacity := by
  induction log with
  | nil => exact Nat.zero_le _
  | enqueue item earlier room =>
    rw [List.length_append]
    exact room
  | dequeue item earlier inductionHypothesis => exact (Nat.le_succ _).trans inductionHypothesis

/-- As many are held as have been put in and not taken. -/
theorem count (log : Log capacity events queue) :
    (enqueued events).length = (dequeued events).length + queue.length := by
  rw [log.conserved, List.length_append]

end Log

/-! ## Cyclic storage -/

/-- The cells hold the queue, one item after the other, from the cell of number `start`. -/
def Stored (cells : List (Option τ)) (start : Nat) (queue : List τ) : Prop :=
  ∀ position item, queue[position]? = some item →
    cells[(start + position) % cells.length]? = some (some item)

/-- Two positions less than a round apart are in different cells. -/
theorem cell_ne {size start position other : Nat} (before : position < other)
    (round : other < size) : (start + position) % size ≠ (start + other) % size := by
  intro same
  have modular : position ≡ other [MOD size] := Nat.ModEq.add_left_cancel' start same
  rw [Nat.ModEq, Nat.mod_eq_of_lt (before.trans round), Nat.mod_eq_of_lt round] at modular
  exact absurd modular before.ne

namespace Stored

variable {cells : List (Option τ)} {start : Nat} {queue : List τ} {item : τ}

/-- Nothing is stored in any cells. -/
theorem nil : Stored cells start [] := fun _ _ found => by cases found

/-- The cell after the last item is not one of theirs. -/
theorem free (room : queue.length < cells.length) {position : Nat}
    (held : position < queue.length) :
    (start + position) % cells.length ≠ (start + queue.length) % cells.length :=
  cell_ne held room

/-- Writing the cell after the last item leaves the queue as it is. -/
theorem write (stored : Stored cells start queue) (room : queue.length < cells.length)
    (slot : Option τ) :
    Stored (cells.set ((start + queue.length) % cells.length) slot) start queue := by
  intro position item found
  have held : position < queue.length := (List.getElem?_eq_some_iff.mp found).1
  rw [List.length_set, List.getElem?_set_ne (free room held).symm]
  exact stored position item found

/-- An item that is in the cell after the last one can be added to the queue. -/
theorem push (stored : Stored cells start queue)
    (written : cells[(start + queue.length) % cells.length]? = some (some item)) :
    Stored cells start (queue ++ [item]) := by
  intro position other found
  obtain held | beyond := Nat.lt_or_ge position queue.length
  · rw [List.getElem?_append_left held] at found
    exact stored position other found
  · rw [List.getElem?_append_right beyond] at found
    obtain ⟨inside, found⟩ := List.getElem?_eq_some_iff.mp found
    have last : position = queue.length := by
      simp only [List.length_singleton] at inside
      omega
    rw [List.getElem_singleton] at found
    rw [last, ← found]
    exact written

/-- The first item is in the cell at the start. -/
theorem head (stored : Stored cells start (item :: queue)) :
    cells[start % cells.length]? = some (some item) :=
  stored 0 item rfl

/-- Without its first item the queue starts one cell further. -/
theorem pop (stored : Stored cells start (item :: queue)) : Stored cells (start + 1) queue := by
  intro position other found
  have moved := stored (position + 1) other found
  rwa [Nat.add_comm position 1, ← Nat.add_assoc] at moved

end Stored

end Fifo
