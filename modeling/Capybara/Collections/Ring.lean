import Capybara.Runtime.Machine
import Mathlib.Data.Nat.Bitwise

/-!
# The ring buffer

`collections/ring.rs` and what it uses of `collections/raw_array.rs`: a circular buffer for
one writer and one reader. The two indices are shared; each call loads both, decides, reads
or writes one slot and commits by storing one index.

First come the calls as they run when nothing interleaves with them. Then each thread is
given the points at which its call can be interrupted, one step from each to the next, so
that the steps of the two threads can be taken in any order. Between two accesses to shared
memory a call only computes, so that the check of the cached indices belongs to the second
load.

A slot that has never been written is absent; reading it is a fault. Allocation is taken to
succeed, and who owns the memory is left out.
-/

namespace Capybara

/-- `RawArray<T>`: the slots. -/
abbrev RawArray (τ : Type) := List (Option τ)

/-- `Layout::array::<T>(n)` exists: the array and its padding fit in `isize`. -/
def layoutFits (size align n : Nat) : Bool := size * n ≤ 2 ^ 63 - align

/-- `RawArray::new`, for items of the given size and alignment. -/
def RawArray.new (τ : Type) (size align cap : Nat) : Except Fail (RawArray τ) :=
  if cap = 0 then .error ⟨.EINVAL, "cannot create a raw array with zero capacity"⟩
  else if layoutFits size align cap then .ok (List.replicate cap none)
  else .error ⟨.EAGAIN, "failed to create memory layout for raw array"⟩

/-- `RingBuffer<T>`. -/
structure RingBuffer (τ : Type) where
  /-- The first empty slot after the item in the back. -/
  backPtr : Nat
  /-- The first item in the front. -/
  frontPtr : Nat
  buffer : RawArray τ
  mask : Nat
  deriving DecidableEq, Repr

namespace RingBuffer

variable {τ : Type}

/-- `RingBuffer::new`. -/
def new (τ : Type) (size align capacity : Nat) : Except Fail (RingBuffer τ) :=
  if ¬ capacity.isPowerOfTwo then
    .error ⟨.EINVAL, "cannot create a ring buffer that does not have a power of two capacity"⟩
  else do
    let buffer ← RawArray.new τ size align capacity
    return { backPtr := 0, frontPtr := 0, buffer, mask := capacity - 1 }

/-- `RingBuffer::capacity`. -/
def capacity (profile : Profile) (ring : RingBuffer τ) : Checked Nat :=
  subUsize profile ring.buffer.length 1

/-- `(index + 1) & self.mask`. -/
def next (profile : Profile) (ring : RingBuffer τ) (index : Nat) : Checked Nat := do
  return (← addUsize profile index 1) &&& ring.mask

/-- `RingBuffer::is_full`. -/
def isFull (profile : Profile) (ring : RingBuffer τ) : Checked Bool := do
  let frontCached := ring.frontPtr
  let backCached := ring.backPtr
  return (← ring.next profile backCached) == frontCached

/-- `RingBuffer::is_empty`. -/
def isEmpty (ring : RingBuffer τ) : Bool :=
  let frontCached := ring.frontPtr
  let backCached := ring.backPtr
  backCached == frontCached

/-- `data[index] = item`. -/
def write (ring : RingBuffer τ) (index : Nat) (item : τ) : Checked (RingBuffer τ) :=
  if index < ring.buffer.length then .ok { ring with buffer := ring.buffer.set index (some item) }
  else .error .sliceOutOfRange

/-- `data[index]`. -/
def read (ring : RingBuffer τ) (index : Nat) : Checked τ :=
  match ring.buffer[index]? with
  | none => .error .sliceOutOfRange
  | some none => .error .uninitialisedRead
  | some (some item) => .ok item

/-- `RingBuffer::try_enqueue`, when nothing interleaves with it. -/
def tryEnqueue (profile : Profile) (ring : RingBuffer τ) (item : τ) :
    Checked (RingBuffer τ × Except τ Unit) := do
  let frontCached := ring.frontPtr
  let backCached := ring.backPtr
  if (← ring.next profile backCached) = frontCached then return (ring, .error item)
  let ring ← ring.write backCached item
  let back ← ring.next profile backCached
  return ({ ring with backPtr := back }, .ok ())

/-- `RingBuffer::try_dequeue`, when nothing interleaves with it. -/
def tryDequeue (profile : Profile) (ring : RingBuffer τ) :
    Checked (RingBuffer τ × Option τ) := do
  let frontCached := ring.frontPtr
  let backCached := ring.backPtr
  if backCached = frontCached then return (ring, none)
  let item ← ring.read frontCached
  let front ← ring.next profile frontCached
  return ({ ring with frontPtr := front }, some item)

end RingBuffer

/-! ## The steps of the two threads -/

/-- Where the producer stands in `try_enqueue`. -/
inductive Enqueuing (τ : Type) where
  /-- No call is running. -/
  | idle
  /-- The front index has been loaded. -/
  | loaded (item : τ) (frontCached : Nat)
  /-- The back index has been loaded as well, and the ring was not full. -/
  | checked (item : τ) (backCached : Nat)
  /-- The slot has been written. -/
  | written (item : τ) (backCached : Nat)
  deriving DecidableEq, Repr

/-- Where the consumer stands in `try_dequeue`. -/
inductive Dequeuing (τ : Type) where
  /-- No call is running. -/
  | idle
  /-- The front index has been loaded. -/
  | loaded (frontCached : Nat)
  /-- The back index has been loaded as well, and the ring was not empty. -/
  | checked (frontCached : Nat)
  /-- The slot has been read. -/
  | taken (item : τ) (frontCached : Nat)
  deriving DecidableEq, Repr

/-- A ring with its two threads. -/
structure RingThreads (τ : Type) where
  ring : RingBuffer τ
  producer : Enqueuing τ
  consumer : Dequeuing τ
  deriving DecidableEq, Repr

/-- The next step of one of the threads. An idle producer is given the item of its next
call. -/
inductive RingAction (τ : Type) where
  | producer (item : τ)
  | consumer
  deriving DecidableEq, Repr

namespace RingThreads

variable {τ : Type}

/-- A new ring, with both threads idle. -/
def start (ring : RingBuffer τ) : RingThreads τ := ⟨ring, .idle, .idle⟩

/-- One step of `try_enqueue`. -/
def produce (profile : Profile) (threads : RingThreads τ) (item : τ) :
    Checked (RingThreads τ) :=
  match threads.producer with
  | .idle => .ok { threads with producer := .loaded item threads.ring.frontPtr }
  | .loaded item frontCached => do
    let backCached := threads.ring.backPtr
    if (← threads.ring.next profile backCached) = frontCached then
      return { threads with producer := .idle }
    return { threads with producer := .checked item backCached }
  | .checked item backCached => do
    let ring ← threads.ring.write backCached item
    return { threads with ring, producer := .written item backCached }
  | .written _ backCached => do
    let back ← threads.ring.next profile backCached
    return { threads with ring := { threads.ring with backPtr := back }, producer := .idle }

/-- One step of `try_dequeue`. -/
def consume (profile : Profile) (threads : RingThreads τ) : Checked (RingThreads τ) :=
  match threads.consumer with
  | .idle => .ok { threads with consumer := .loaded threads.ring.frontPtr }
  | .loaded frontCached =>
    let backCached := threads.ring.backPtr
    if backCached = frontCached then .ok { threads with consumer := .idle }
    else .ok { threads with consumer := .checked frontCached }
  | .checked frontCached => do
    let item ← threads.ring.read frontCached
    return { threads with consumer := .taken item frontCached }
  | .taken _ frontCached => do
    let front ← threads.ring.next profile frontCached
    return { threads with ring := { threads.ring with frontPtr := front }, consumer := .idle }

/-- One step of either thread. -/
def step (profile : Profile) (threads : RingThreads τ) : RingAction τ → Checked (RingThreads τ)
  | .producer item => threads.produce profile item
  | .consumer => threads.consume profile

end RingThreads

end Capybara
