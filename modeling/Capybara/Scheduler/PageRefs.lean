import Capybara.Lib.References
import Capybara.Scheduler.Scheduler

/-!
# The memory of the pages

`page_ref.rs` and `waker_ref.rs`. A page of flags lies at a multiple of its size, so that a
waker is one address: that of the page, plus the slot of the task in it. Everything that
refers to a page counts as a reference: the entry in the vector of the scheduler, the handle
of a task, and each waker. The page is freed with the last of them, which may be long after
the scheduler is gone.

`PagedScheduler` is the scheduler once more, over this memory. What was a list of pages is
now a list of addresses, and waking, cloning and dropping a waker are operations on the
address that it is.
-/

namespace Capybara

open References

/-- `WAKER_PAGE_SIZE`. -/
abbrev WAKER_PAGE_SIZE : Nat := 64

/-- The pages that have not been freed, at their addresses. -/
abbrev PageMemory := Heap Nat WakerPage

/-- The number of references that `refcount` can count. -/
def MAX_REFCOUNT : Nat := 2 ^ 64 - 1

namespace WakerPageRef

/-- `WakerPageRef::clone`. -/
def clone (page : Nat) (memory : PageMemory) : Except ReferenceFault PageMemory :=
  memory.retain MAX_REFCOUNT page

/-- `WakerPageRef::drop`. -/
def drop (page : Nat) (memory : PageMemory) : Except ReferenceFault PageMemory := memory.release page

/-- `into_raw_waker_ref`: the waker of a slot, with its reference to the page. -/
def intoRawWakerRef (page ix : Nat) (memory : PageMemory) : Except ReferenceFault (Nat × PageMemory) :=
  match clone page memory with
  | .error fault => .error fault
  | .ok memory => .ok (page + ix, memory)

end WakerPageRef

namespace WakerRef

/-- `base_ptr`: the page and the slot of a waker. -/
def basePtr (ptr : Nat) : Nat × Nat :=
  let forwardOffset := (WAKER_PAGE_SIZE - ptr % WAKER_PAGE_SIZE) % WAKER_PAGE_SIZE
  if forwardOffset ≠ 0 then
    let offset := WAKER_PAGE_SIZE - forwardOffset
    (ptr - offset, offset)
  else (ptr, 0)

/-- `wake_by_ref`. -/
def wakeByRef (ptr : Nat) (memory : PageMemory) : Except ReferenceFault PageMemory :=
  memory.update (basePtr ptr).1 fun page => page.notify (basePtr ptr).2

/-- `clone`. -/
def clone (ptr : Nat) (memory : PageMemory) : Except ReferenceFault PageMemory :=
  WakerPageRef.clone (basePtr ptr).1 memory

/-- `drop`. -/
def drop (ptr : Nat) (memory : PageMemory) : Except ReferenceFault PageMemory :=
  WakerPageRef.drop (basePtr ptr).1 memory

/-- `wake`, which uses the waker up. -/
def wake (ptr : Nat) (memory : PageMemory) : Except ReferenceFault PageMemory :=
  match wakeByRef ptr memory with
  | .error fault => .error fault
  | .ok memory => drop ptr memory

/-- A waker made for a slot of a page leads back to them. -/
theorem basePtr_add {page ix : Nat} (aligned : page % WAKER_PAGE_SIZE = 0) (inside : ix < 64) :
    basePtr (page + ix) = (page, ix) := by
  unfold basePtr WAKER_PAGE_SIZE
  unfold WAKER_PAGE_SIZE at aligned
  dsimp only
  by_cases first : ix = 0
  · subst first
    have none : (64 - (page + 0) % 64) % 64 = 0 := by omega
    rw [if_neg (not_not.mpr none), Nat.add_zero]
  · have some : (64 - (page + ix) % 64) % 64 = 64 - ix := by omega
    rw [some, if_pos (by omega : 64 - ix ≠ 0)]
    exact Prod.ext (by simp only; omega) (by simp only; omega)

end WakerRef

/-- The places where the scheduler fails over its memory. -/
inductive PagedFault where
  | memory (fault : ReferenceFault)
  | scheduler (fault : SchedulerFault)
  /-- `WakerPageRef::default`: no page can be allocated. -/
  | outOfMemory
  deriving DecidableEq, Repr

/-- `Scheduler`, with everything that refers to its pages: the handles that are held, each with
its key, the waker of the task that runs, and the wakers that tasks and others have kept. The
scheduler itself may be gone. -/
structure PagedScheduler where
  slab : PinSlab Nat
  memory : PageMemory
  pages : List Nat
  inserted : Nat
  handles : List (Nat × Nat)
  visit : Option Visit
  current : Option Nat
  wakers : List Nat
  closed : Bool

/-- What happens to the scheduler and to its wakers. A waker of the task that runs can be
cloned and woken by that task. -/
inductive PagedAction where
  /-- New pages are allocated at these addresses, as far as they are needed. -/
  | insert (addresses : List Nat)
  | drop (key : Nat)
  | take (key : Nat)
  | poll
  | advance
  | returned (ready : Bool)
  | cloneWaker (ptr : Nat)
  | wake (ptr : Nat)
  | wakeByRef (ptr : Nat)
  | dropWaker (ptr : Nat)
  /-- The last owner of the scheduler drops it. -/
  | shutdown
  deriving DecidableEq, Repr

namespace PagedScheduler

/-- `default`. -/
def default : PagedScheduler where
  slab := .new
  memory := ∅
  pages := []
  inserted := 0
  handles := []
  visit := none
  current := none
  wakers := []
  closed := false

/-- Operations on the memory. -/
def lift {α : Type} (result : Except ReferenceFault α) : Except PagedFault α := result.mapError .memory

/-- `get_page`. -/
def getPage (pages : List Nat) (key : Nat) : Except PagedFault Nat :=
  match pages[key / 64]? with
  | none => .error (.scheduler .noPage)
  | some page => .ok page

/-- New pages. -/
def allocateAll (addresses : List Nat) (memory : PageMemory) : PageMemory :=
  addresses.foldl (fun memory address => memory.allocate address .default) memory

/-- `insert`. -/
def insert (addresses : List Nat) (scheduler : PagedScheduler) :
    Except PagedFault PagedScheduler :=
  match scheduler.slab.insert scheduler.inserted with
  | none => .error (.scheduler .occupiedEntry)
  | some (key, slab) =>
    let missing := key / 64 + 1 - scheduler.pages.length
    if addresses.length < missing then .error .outOfMemory
    else do
      let pages := scheduler.pages ++ addresses.take missing
      let page ← getPage pages key
      let memory ← lift ((allocateAll (addresses.take missing) scheduler.memory).update page
        fun page => page.initialize_ (key % 64))
      let memory ← lift (WakerPageRef.clone page memory)
      .ok { scheduler with
        slab, memory, pages
        inserted := scheduler.inserted + 1
        handles := (key, page) :: scheduler.handles }

/-- `SchedulerHandle::drop`: the flag is set first, then the reference is given up. -/
def drop (key : Nat) (scheduler : PagedScheduler) : Except PagedFault PagedScheduler :=
  match scheduler.handles.find? fun handle => handle.1 == key with
  | none => .ok scheduler
  | some (key, chunk) => do
    let memory ← lift (scheduler.memory.update chunk fun page => page.markDropped (key % 64))
    let memory ← lift (WakerPageRef.drop chunk memory)
    .ok { scheduler with memory, handles := scheduler.handles.erase (key, chunk) }

/-- `take`: at its end the handle is dropped, without its key. -/
def take (key : Nat) (scheduler : PagedScheduler) : Except PagedFault PagedScheduler :=
  match scheduler.handles.find? fun handle => handle.1 == key with
  | none => .ok scheduler
  | some (key, chunk) => do
    let page ← getPage scheduler.pages key
    match scheduler.memory.read page with
    | none => .error (.memory .dangling)
    | some status =>
      if status.dropped.getLsbD (key % 64) then .error (.scheduler .takenAfterDrop)
      else do
        let memory ← lift (scheduler.memory.update page fun page => page.clear (key % 64))
        match scheduler.slab.get key with
        | none => .error (.scheduler .takenTwice)
        | some _ => do
          let memory ← lift (WakerPageRef.drop chunk memory)
          .ok { scheduler with
            memory
            slab := scheduler.slab.remove key
            handles := scheduler.handles.erase (key, chunk) }

/-- `poll` comes to a page, or to its end. -/
def enter (page pages : Nat) (scheduler : PagedScheduler) : Except PagedFault PagedScheduler :=
  if page < pages then
    match scheduler.pages[page]? with
    | none => .error (.scheduler .noPage)
    | some address =>
      match scheduler.memory.read address with
      | none => .error (.memory .dangling)
      | some status => do
        let (notified, status) := status.takeNotified
        let (dropped, status) := status.takeDropped
        let memory ← lift (scheduler.memory.update address fun _ => status)
        .ok { scheduler with
          memory
          visit := some {
            page, pages, notified := bits notified, dropped := bits dropped, running := none } }
  else .ok { scheduler with visit := none }

/-- `poll` goes on in the page that it visits. The waker of the next notified task is made
before the task is looked up. -/
def advance (visit : Visit) (scheduler : PagedScheduler) : Except PagedFault PagedScheduler :=
  match visit.notified with
  | ix :: notified => do
    let page ← getPage scheduler.pages (visit.page * 64)
    let (waker, memory) ← lift (WakerPageRef.intoRawWakerRef page ix scheduler.memory)
    match scheduler.slab.get (visit.key ix) with
    | none => .error (.scheduler .emptySlot)
    | some _ => .ok { scheduler with
        memory, current := some waker, visit := some { visit with notified, running := some ix } }
  | [] =>
    match visit.dropped with
    | ix :: dropped =>
      if ix ≠ 0 then do
        let page ← getPage scheduler.pages (visit.page * 64)
        let memory ← lift (scheduler.memory.update page fun page => page.clear ix)
        .ok { scheduler with
          memory
          slab := scheduler.slab.remove (visit.key ix)
          visit := some { visit with dropped } }
      else .ok { scheduler with visit := some { visit with dropped } }
    | [] => scheduler.enter (visit.page + 1) visit.pages

/-- The task that runs returns: its waker is dropped. -/
def return_ (ready : Bool) (visit : Visit) (ix waker : Nat) (scheduler : PagedScheduler) :
    Except PagedFault PagedScheduler := do
  let page ← getPage scheduler.pages (visit.page * 64)
  let memory ← lift (scheduler.memory.update page fun page =>
    if ready then page.markCompleted ix else page)
  let memory ← lift (WakerRef.drop waker memory)
  .ok { scheduler with memory, current := none, visit := some { visit with running := none } }

/-- A waker that can be cloned and woken. -/
def reaches (scheduler : PagedScheduler) (ptr : Nat) : Bool :=
  ptr ∈ scheduler.wakers || scheduler.current == some ptr

/-- One action. Only those that are there can be used: a handle or a waker that is held, and a
scheduler that has not been dropped. It is not dropped while it polls. -/
def step (scheduler : PagedScheduler) : PagedAction → Except PagedFault PagedScheduler
  | .insert addresses => if scheduler.closed then .ok scheduler else scheduler.insert addresses
  | .drop key => scheduler.drop key
  | .take key => if scheduler.closed then .ok scheduler else scheduler.take key
  | .poll =>
    if scheduler.closed then .ok scheduler
    else match scheduler.visit with
    | none => scheduler.enter 0 scheduler.pages.length
    | some _ => .ok scheduler
  | .advance =>
    match scheduler.visit with
    | none => .ok scheduler
    | some visit => if visit.running.isSome then .ok scheduler else scheduler.advance visit
  | .returned ready =>
    match scheduler.visit with
    | none => .ok scheduler
    | some visit =>
      match visit.running, scheduler.current with
      | some ix, some waker => scheduler.return_ ready visit ix waker
      | _, _ => .ok scheduler
  | .cloneWaker ptr =>
    if scheduler.reaches ptr then do
      let memory ← lift (WakerRef.clone ptr scheduler.memory)
      .ok { scheduler with memory, wakers := ptr :: scheduler.wakers }
    else .ok scheduler
  | .wake ptr =>
    if ptr ∈ scheduler.wakers then do
      let memory ← lift (WakerRef.wake ptr scheduler.memory)
      .ok { scheduler with memory, wakers := scheduler.wakers.erase ptr }
    else .ok scheduler
  | .wakeByRef ptr =>
    if scheduler.reaches ptr then do
      let memory ← lift (WakerRef.wakeByRef ptr scheduler.memory)
      .ok { scheduler with memory }
    else .ok scheduler
  | .dropWaker ptr =>
    if ptr ∈ scheduler.wakers then do
      let memory ← lift (WakerRef.drop ptr scheduler.memory)
      .ok { scheduler with memory, wakers := scheduler.wakers.erase ptr }
    else .ok scheduler
  | .shutdown =>
    if scheduler.closed || scheduler.visit.isSome then .ok scheduler
    else do
      let memory ← lift (scheduler.memory.releaseAll scheduler.pages)
      .ok { scheduler with memory, slab := .new, pages := [], closed := true }

/-- A successful action. -/
abbrev Transition := Runs.Transition PagedScheduler PagedAction

/-- The schedulers that can be reached, each with its past. -/
abbrev Run (start : PagedScheduler) := Runs.Run step start

end PagedScheduler

end Capybara
