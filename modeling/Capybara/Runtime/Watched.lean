import Capybara.Lib.Slots
import Capybara.Runtime.Buffer

/-!
# Watched values and their futures

`runtime/watched.rs`. A future carries its own node of the intrusive list of waiters, and is
put in the list by its first poll. A modification completes the futures that are in the list,
from the last one to the first, and empties it.

The futures are kept beside the value, each in a slot of its own. The list is that of the slots
of its nodes, and one that refers to a future that is gone is a fault. Two wakers are the same
if they wake the same task.
-/

namespace Capybara

open Slots

namespace Watched

/-- `WatchState`. -/
inductive WatchState where
  | unregistered
  | registered
  | completed (polled : Bool)
  deriving DecidableEq, Repr

/-- `WatchEntry`. -/
structure WatchEntry where
  task : Option Waker
  state : WatchState
  deriving DecidableEq, Repr

/-- `WatchFuture`, with its node. -/
inductive WatchFuture where
  | completable (waitNode : WatchEntry)
  | pending
  deriving DecidableEq, Repr

/-- The slot of a future. -/
abbrev FutureId := Nat

/-- `WatchedValue`, with the futures that `watch` has made and the wakers called. -/
structure WatchedValue (α : Type) where
  value : α
  waiters : List FutureId
  futures : Store WatchFuture
  woken : List Waker

namespace WatchedValue

variable {α : Type}

/-- `new`. -/
def new (value : α) : WatchedValue α := ⟨value, [], [], []⟩

/-- `get`. -/
def get (watched : WatchedValue α) : α := watched.value

/-- `set_without_notify`. -/
def setWithoutNotify (watched : WatchedValue α) (newValue : α) : WatchedValue α :=
  { watched with value := newValue }

/-- A node is written. -/
def put (watched : WatchedValue α) (id : FutureId) (waitNode : WatchEntry) : WatchedValue α :=
  { watched with futures := watched.futures.set id (some (.completable waitNode)) }

/-- The callback of `modify` for one waiter. -/
def complete (watched : WatchedValue α) (waiter : FutureId) : Checked (WatchedValue α) :=
  match read watched.futures waiter with
  | some (.completable waitNode) =>
    let watched := { watched with woken := watched.woken ++ waitNode.task.toList }
    .ok (watched.put waiter ⟨none, .completed false⟩)
  | _ => .error .danglingNode

/-- `modify`. -/
def modify (watched : WatchedValue α) (f : α → α) : Checked (WatchedValue α) :=
  watched.waiters.reverse.foldlM complete
    { watched with value := f watched.value, waiters := [] }

/-- `set`. -/
def set (watched : WatchedValue α) (newValue : α) : Checked (WatchedValue α) :=
  watched.modify fun _ => newValue

/-- `watch`: the value and a future. -/
def watch (watched : WatchedValue α) : (α × FutureId) × WatchedValue α :=
  ((watched.get, watched.futures.length),
    { watched with futures := watched.futures ++ [some (.completable ⟨none, .unregistered⟩)] })

/-- `WatchFuture::poll`; the result is whether the future is ready. -/
def poll (watched : WatchedValue α) (id : FutureId) (waker : Waker) :
    WatchFuture → WatchedValue α × Bool
  | .pending => (watched, false)
  | .completable waitNode =>
    match waitNode.state with
    | .unregistered =>
      let watched := watched.put id ⟨some waker, .registered⟩
      ({ watched with waiters := id :: watched.waiters }, false)
    | .registered =>
      let task := if waitNode.task = some waker then waitNode.task else some waker
      (watched.put id ⟨task, .registered⟩, false)
    | .completed _ => (watched.put id ⟨waitNode.task, .completed true⟩, true)

/-- `WatchFuture::is_terminated`. -/
def isTerminated : WatchFuture → Bool
  | .pending => false
  | .completable waitNode => waitNode.state = .completed true

/-- The memory of a future is gone. -/
def free (watched : WatchedValue α) (id : FutureId) : WatchedValue α :=
  { watched with futures := watched.futures.set id none }

/-- `WatchFuture::drop`. -/
def dropFuture (watched : WatchedValue α) (id : FutureId) :
    WatchFuture → Checked (WatchedValue α)
  | .pending => .ok (watched.free id)
  | .completable waitNode =>
    match waitNode.state with
    | .registered =>
      if id ∈ watched.waiters then
        .ok (WatchedValue.free { watched with waiters := watched.waiters.erase id } id)
      else .error .notInWaitQueue
    | _ => .ok (watched.free id)

end WatchedValue

/-- What is done with a watched value and its futures. -/
inductive Action (α : Type) where
  | watch
  | modify (f : α → α)
  | set (newValue : α)
  | setWithoutNotify (newValue : α)
  | poll (id : FutureId) (waker : Waker)
  | drop (id : FutureId)

/-- What it answers. -/
inductive Answer (α : Type) where
  | watching (value : α) (id : FutureId)
  | polled (ready : Bool)
  | done
  /-- There is no such future, or not any more. -/
  | absent
  deriving DecidableEq, Repr

variable {α : Type}

/-- One action. -/
def serve (watched : WatchedValue α) : Action α → Checked (WatchedValue α × Answer α)
  | .watch =>
    let ((value, id), watched) := watched.watch
    .ok (watched, .watching value id)
  | .modify f => do
    let watched ← watched.modify f
    return (watched, .done)
  | .set newValue => do
    let watched ← watched.set newValue
    return (watched, .done)
  | .setWithoutNotify newValue => .ok (watched.setWithoutNotify newValue, .done)
  | .poll id waker =>
    match read watched.futures id with
    | none => .ok (watched, .absent)
    | some future =>
      let (watched, ready) := watched.poll id waker future
      .ok (watched, .polled ready)
  | .drop id =>
    match read watched.futures id with
    | none => .ok (watched, .absent)
    | some future => do
      let watched ← watched.dropFuture id future
      return (watched, .done)

end Watched

end Capybara
