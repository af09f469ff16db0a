import Capybara.Collections.PairingHeap
import Capybara.Lib.Slots

/-!
# Timers and their futures

`runtime/timer.rs`. A future carries its own node of the heap, and is put in the heap by its first
poll unless its time has come. A clock that is advanced takes the nodes out whose time has come,
and calls the wakers that were stored in them last.

The futures are kept beside the clock, each in a slot of its own, and a node of the heap is known
by the slot of its future and by the expiry that it is ordered by. Every waker that is called is
recorded with the slot that it was stored in. Two wakers are the same if they wake the same task.
-/

namespace Capybara

open Slots

namespace Timers

/-- `PollState`. -/
inductive PollState where
  | unregistered
  | registered
  | expired
  deriving DecidableEq, Repr

/-- `TimerQueueEntry`. -/
structure TimerQueueEntry where
  expiry : Instant
  task : Option Waker
  state : PollState
  deriving DecidableEq, Repr

/-- `WaitFuture`: whether it still has its timer, and the entry of its node. -/
structure WaitFuture where
  ptr : Bool
  waitNode : TimerQueueEntry
  deriving DecidableEq, Repr

/-- The slot of a future. -/
abbrev FutureId := Nat

/-- A node of the heap. -/
structure HeapNode where
  expiry : Instant
  id : FutureId
  deriving DecidableEq, Repr

/-- `Timer`, with the futures made and the wakers called. -/
structure Timer where
  now : Instant
  heap : PairingHeap HeapNode
  futures : Store WaitFuture
  woken : List (FutureId × Waker)
  deriving DecidableEq, Repr

namespace Timer

/-- `new`. -/
def new (now : Instant) : Timer := ⟨now, .new, [], []⟩

/-- An entry is written. -/
def put (timer : Timer) (id : FutureId) (ptr : Bool) (waitNode : TimerQueueEntry) : Timer :=
  { timer with futures := timer.futures.set id (some ⟨ptr, waitNode⟩) }

/-- The state of an entry is changed, and its waker taken out and called. -/
def wake (timer : Timer) (id : FutureId) (future : WaitFuture) : Timer :=
  { timer.put id future.ptr { future.waitNode with task := none, state := .expired } with
    woken := timer.woken ++ future.waitNode.task.toList.map (id, ·) }

/-- The loop of `advance_clock`, of so many turns at most. -/
def expireDue (now : Instant) (turns : Nat) (timer : Timer) : Checked Timer :=
  match timer.heap.peekMin with
  | none => .ok timer
  | some first =>
    match read timer.futures first.id with
    | none => .error .danglingNode
    | some future =>
      if now < future.waitNode.expiry then .ok timer
      else match turns with
        | 0 => .error .neverReturns
        | turns + 1 => do
          let timer := timer.wake first.id future
          let heap ← timer.heap.remove HeapNode.expiry first
          expireDue now turns { timer with heap }

/-- `advance_clock`. A turn of the loop takes a node out of the heap. -/
def advanceClock (timer : Timer) (now : Instant) : Checked Timer :=
  if timer.now ≤ now then do
    let timer ← timer.expireDue now timer.heap.size
    return { timer with now }
  else .error .clockBackwards

/-- `wait_until`. -/
def waitUntil (timer : Timer) (expiry : Instant) : FutureId × Timer :=
  (timer.futures.length,
    { timer with futures := timer.futures ++ [some ⟨true, ⟨expiry, none, .unregistered⟩⟩] })

/-- `wait`. -/
def wait (timer : Timer) (timeout : Duration) : FutureId × Timer :=
  timer.waitUntil (timer.now + timeout)

/-- `WaitFuture::poll`; the result is whether the future is ready. -/
def poll (timer : Timer) (id : FutureId) (waker : Waker) (future : WaitFuture) :
    Checked (Bool × Timer) :=
  if future.ptr = false then .error .polledAfterCompletion
  else
    let waitNode := future.waitNode
    match waitNode.state with
    | .unregistered =>
      if timer.now ≥ waitNode.expiry then
        .ok (true, timer.put id false { waitNode with state := .expired })
      else
        let timer := timer.put id true { waitNode with task := some waker, state := .registered }
        .ok (false, { timer with heap := timer.heap.insert HeapNode.expiry ⟨waitNode.expiry, id⟩ })
    | .registered =>
      let task := if waitNode.task = some waker then waitNode.task else some waker
      .ok (false, timer.put id true { waitNode with task })
    | .expired => .ok (true, timer.put id false waitNode)

/-- The memory of a future is gone. -/
def free (timer : Timer) (id : FutureId) : Timer :=
  { timer with futures := timer.futures.set id none }

/-- `WaitFuture::drop`. -/
def dropFuture (timer : Timer) (id : FutureId) (future : WaitFuture) : Checked Timer :=
  if future.ptr ∧ future.waitNode.state = .registered then do
    let heap ← timer.heap.remove HeapNode.expiry ⟨future.waitNode.expiry, id⟩
    return Timer.free { timer with heap } id
  else .ok (timer.free id)

/-- The wakers that were stored in a future and have been called. -/
def wokenBy (timer : Timer) (id : FutureId) : List Waker :=
  timer.woken.filterMap fun (other, waker) => if other = id then some waker else none

end Timer

/-- What is done with a timer and its futures. -/
inductive Action where
  | wait (timeout : Duration)
  | waitUntil (expiry : Instant)
  | poll (id : FutureId) (waker : Waker)
  | drop (id : FutureId)
  | advanceClock (now : Instant)
  deriving DecidableEq, Repr

/-- What it answers. -/
inductive Answer where
  | waiting (id : FutureId)
  | polled (ready : Bool)
  | done
  /-- There is no such future, or not any more. -/
  | absent
  deriving DecidableEq, Repr

/-- One action, with its answer. -/
def act (timer : Timer) : Action → Checked (Timer × Answer)
  | .wait timeout =>
    let (id, timer) := timer.wait timeout
    .ok (timer, .waiting id)
  | .waitUntil expiry =>
    let (id, timer) := timer.waitUntil expiry
    .ok (timer, .waiting id)
  | .poll id waker =>
    match read timer.futures id with
    | none => .ok (timer, .absent)
    | some future => do
      let (ready, timer) ← timer.poll id waker future
      return (timer, .polled ready)
  | .drop id =>
    match read timer.futures id with
    | none => .ok (timer, .done)
    | some future => do
      let timer ← timer.dropFuture id future
      return (timer, .done)
  | .advanceClock now => do
    let timer ← timer.advanceClock now
    return (timer, .done)

/-- One action, with its answer and the timer that it leaves. -/
def serve (timer : Timer) (action : Action) : Checked (Timer × Answer × Timer) := do
  let (timer, answer) ← act timer action
  return (timer, answer, timer)

end Timers

end Capybara
