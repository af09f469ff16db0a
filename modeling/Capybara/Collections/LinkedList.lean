import Capybara.Lib.LinkedNodes
import Capybara.Lib.Slots
import Capybara.Runtime.Machine

/-!
# The intrusive linked list

`collections/intrusive/double_linked_list.rs`. The nodes belong to the users of the list and are
pinned there; the list keeps pointers to the first and the last, and the nodes keep pointers to
their neighbours. A node is known by the slot that it is pinned in. A pointer that is followed
to a node that is gone is undefined in the source and a fault here.

`drain` and `reverse_drain` clear every node before they go on to the next, so a node that has
been visited leads nowhere. No drain takes more turns than there are slots, and one more.
-/

namespace Capybara

open Slots

/-- The slot of a node. -/
abbrev NodeId := Nat

/-- `ListNode`. -/
structure ListNode (α : Type) where
  prev : Option NodeId
  next : Option NodeId
  data : α
  deriving DecidableEq, Repr

/-- `ListNode::new`. -/
def ListNode.new {α : Type} (data : α) : ListNode α := ⟨none, none, data⟩

/-- The nodes that are pinned somewhere. -/
abbrev NodeMemory (α : Type) := Store (ListNode α)

/-- What fails in the list. -/
inductive ListFault where
  /-- A pointer to a node that is gone is followed. -/
  | danglingPointer
  /-- `remove_first`: the only node is not the last one. -/
  | onlyNodeNotTail
  /-- `remove_last`: the only node is not the first one. -/
  | onlyNodeNotHead
  /-- `is_empty`: there is a last node but no first one. -/
  | tailWithoutHead
  /-- `remove`: a node that is not in the list has a node behind it. -/
  | nextOutsideList
  /-- `remove`: the node in front does not lead to this one. -/
  | notNextOfPrev
  /-- `remove`: the node without one behind it is not the last one. -/
  | notTail
  /-- `remove`: the node behind does not lead back to this one. -/
  | notPrevOfNext
  /-- A drain has taken more turns than there are nodes. -/
  | endless
  /-- `WatchFuture::drop`: "Future could not be removed from wait queue". -/
  | notInWaitQueue
  deriving DecidableEq, Repr

/-- `debug_assert!` and `debug_assert_eq!`. -/
def debugAssertLink (profile : Profile) (condition : Bool) (fault : ListFault) :
    Except ListFault Unit :=
  if profile.checks && !condition then .error fault else .ok ()

namespace NodeMemory

variable {α : Type}

/-- `as_ref`. -/
def deref (memory : NodeMemory α) (node : NodeId) : Except ListFault (ListNode α) :=
  match read memory node with
  | none => .error .danglingPointer
  | some found => .ok found

/-- `as_mut`, and what is written. -/
def write (memory : NodeMemory α) (node : NodeId) (change : ListNode α → ListNode α) :
    Except ListFault (NodeMemory α) :=
  match read memory node with
  | none => .error .danglingPointer
  | some found => .ok (memory.set node (some (change found)))

/-- `as_mut`, if there is a pointer. -/
def writeIfSome (memory : NodeMemory α) (pointer : Option NodeId)
    (change : ListNode α → ListNode α) : Except ListFault (NodeMemory α) :=
  match pointer with
  | none => .ok memory
  | some node => memory.write node change

end NodeMemory

/-- `LinkedList`. -/
structure LinkedList where
  head : Option NodeId
  tail : Option NodeId
  deriving DecidableEq, Repr

namespace LinkedList

variable {α σ : Type}

/-- `new`. -/
def new : LinkedList := ⟨none, none⟩

/-- `add_front`. -/
def addFront (list : LinkedList) (node : NodeId) (memory : NodeMemory α) :
    Except ListFault (LinkedList × NodeMemory α) := do
  let memory ← memory.write node fun found => { found with next := list.head, prev := none }
  let memory ← memory.writeIfSome list.head fun head => { head with prev := some node }
  return (⟨some node, if list.tail.isNone then some node else list.tail⟩, memory)

/-- `peek_first`. -/
def peekFirst (list : LinkedList) (memory : NodeMemory α) :
    Except ListFault (Option (ListNode α)) :=
  match list.head with
  | none => .ok none
  | some node => (memory.deref node).map some

/-- `peek_last`. -/
def peekLast (list : LinkedList) (memory : NodeMemory α) :
    Except ListFault (Option (ListNode α)) :=
  match list.tail with
  | none => .ok none
  | some node => (memory.deref node).map some

/-- `remove_first`. -/
def removeFirst (profile : Profile) (list : LinkedList) (memory : NodeMemory α) :
    Except ListFault (Option NodeId × LinkedList × NodeMemory α) :=
  match list.head with
  | none => .ok (none, list, memory)
  | some head => do
    let first ← memory.deref head
    match first.next with
    | none =>
      debugAssertLink profile (some head = list.tail) .onlyNodeNotTail
      let memory ← memory.write head fun first => { first with prev := none, next := none }
      return (some head, ⟨none, none⟩, memory)
    | some next =>
      let memory ← memory.write next fun second => { second with prev := none }
      let memory ← memory.write head fun first => { first with prev := none, next := none }
      return (some head, { list with head := some next }, memory)

/-- `remove_last`. -/
def removeLast (profile : Profile) (list : LinkedList) (memory : NodeMemory α) :
    Except ListFault (Option NodeId × LinkedList × NodeMemory α) :=
  match list.tail with
  | none => .ok (none, list, memory)
  | some tail => do
    let last ← memory.deref tail
    match last.prev with
    | none =>
      debugAssertLink profile (some tail = list.head) .onlyNodeNotHead
      let memory ← memory.write tail fun last => { last with prev := none, next := none }
      return (some tail, ⟨none, none⟩, memory)
    | some prev =>
      let memory ← memory.write prev fun previous => { previous with next := none }
      let memory ← memory.write tail fun last => { last with prev := none, next := none }
      return (some tail, { list with tail := some prev }, memory)

/-- `is_empty`. -/
def isEmpty (profile : Profile) (list : LinkedList) : Except ListFault Bool :=
  if list.head.isSome then .ok false
  else do
    debugAssertLink profile list.tail.isNone .tailWithoutHead
    return true

/-- What `remove` does once the node in front leads past the node. -/
def removeNext (profile : Profile) (list : LinkedList) (node : NodeId) (found : ListNode α)
    (memory : NodeMemory α) : Except ListFault (Bool × LinkedList × NodeMemory α) :=
  match found.next with
  | none => do
    debugAssertLink profile (list.tail = some node) .notTail
    let memory ← memory.write node fun found => { found with next := none, prev := none }
    return (true, { list with tail := found.prev }, memory)
  | some next => do
    let following ← memory.deref next
    debugAssertLink profile (following.prev = some node) .notPrevOfNext
    let memory ← memory.write next fun following => { following with prev := found.prev }
    let memory ← memory.write node fun found => { found with next := none, prev := none }
    return (true, list, memory)

/-- `remove`. -/
def remove (profile : Profile) (list : LinkedList) (node : NodeId) (memory : NodeMemory α) :
    Except ListFault (Bool × LinkedList × NodeMemory α) := do
  let found ← memory.deref node
  match found.prev with
  | none =>
    if list.head = some node then
      removeNext profile { list with head := found.next } node found memory
    else
      debugAssertLink profile found.next.isNone .nextOutsideList
      return (false, list, memory)
  | some prev =>
    let previous ← memory.deref prev
    debugAssertLink profile (previous.next = some node) .notNextOfPrev
    let memory ← memory.write prev fun previous => { previous with next := found.next }
    removeNext profile list node found memory

/-- The loop of a drain: each node is cleared before the callback gets it. The callback may change
its own state and the data of the node. -/
def drainFrom (follow : ListNode α → Option NodeId) (func : σ → α → σ × α) :
    Nat → Option NodeId → σ → NodeMemory α → Except ListFault (σ × NodeMemory α)
  | _, none, state, memory => .ok (state, memory)
  | 0, some _, _, _ => .error .endless
  | turns + 1, some node, state, memory =>
    match read memory node with
    | none => .error .danglingPointer
    | some found =>
      drainFrom follow func turns (follow found) (func state found.data).1
        (memory.set node (some (.new (func state found.data).2)))

/-- `drain`. -/
def drain (list : LinkedList) (func : σ → α → σ × α) (state : σ) (memory : NodeMemory α) :
    Except ListFault (σ × LinkedList × NodeMemory α) := do
  let (state, memory) ← drainFrom ListNode.next func (memory.length + 1) list.head state memory
  return (state, ⟨none, none⟩, memory)

/-- `reverse_drain`. -/
def reverseDrain (list : LinkedList) (func : σ → α → σ × α) (state : σ) (memory : NodeMemory α) :
    Except ListFault (σ × LinkedList × NodeMemory α) := do
  let (state, memory) ← drainFrom ListNode.prev func (memory.length + 1) list.tail state memory
  return (state, ⟨none, none⟩, memory)

end LinkedList

/-- A list, and the nodes that its users have pinned. -/
structure PinnedNodes (α : Type) where
  list : LinkedList
  memory : NodeMemory α

/-- What the users of a list do with it and with their nodes. -/
inductive ListAction (α σ : Type) where
  | pin (data : α)
  | unpin (node : NodeId)
  | addFront (node : NodeId)
  | peekFirst
  | peekLast
  | removeFirst
  | removeLast
  | isEmpty
  | remove (node : NodeId)
  | drain (func : σ → α → σ × α) (state : σ)
  | reverseDrain (func : σ → α → σ × α) (state : σ)

/-- What they get. -/
inductive ListAnswer (α σ : Type) where
  | done
  | pinned (node : NodeId)
  | data (found : Option α)
  | node (taken : Option NodeId)
  | flag (value : Bool)
  | drained (state : σ)
  deriving DecidableEq, Repr

namespace PinnedNodes

variable {α σ : Type}

/-- An empty list, and no nodes. -/
def new : PinnedNodes α := ⟨.new, []⟩

/-- One action. -/
def serve (profile : Profile) (pinned : PinnedNodes α) :
    ListAction α σ → Except ListFault (PinnedNodes α × ListAnswer α σ)
  | .pin data =>
    .ok ({ pinned with memory := pinned.memory ++ [some (.new data)] },
      .pinned pinned.memory.length)
  | .unpin node => .ok ({ pinned with memory := pinned.memory.set node none }, .done)
  | .addFront node => do
    let (list, memory) ← pinned.list.addFront node pinned.memory
    return (⟨list, memory⟩, .done)
  | .peekFirst => do
    let found ← pinned.list.peekFirst pinned.memory
    return (pinned, .data (found.map ListNode.data))
  | .peekLast => do
    let found ← pinned.list.peekLast pinned.memory
    return (pinned, .data (found.map ListNode.data))
  | .removeFirst => do
    let (taken, list, memory) ← pinned.list.removeFirst profile pinned.memory
    return (⟨list, memory⟩, .node taken)
  | .removeLast => do
    let (taken, list, memory) ← pinned.list.removeLast profile pinned.memory
    return (⟨list, memory⟩, .node taken)
  | .isEmpty => do
    let empty ← pinned.list.isEmpty profile
    return (pinned, .flag empty)
  | .remove node => do
    let (removed, list, memory) ← pinned.list.remove profile node pinned.memory
    return (⟨list, memory⟩, .flag removed)
  | .drain func state => do
    let (state, list, memory) ← pinned.list.drain func state pinned.memory
    return (⟨list, memory⟩, .drained state)
  | .reverseDrain func state => do
    let (state, list, memory) ← pinned.list.reverseDrain func state pinned.memory
    return (⟨list, memory⟩, .drained state)

end PinnedNodes

end Capybara
