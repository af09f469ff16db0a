import Capybara.Lib.Runs
import Capybara.Scheduler.PinSlab
import Capybara.Scheduler.WakerPage

/-!
# The task scheduler

`scheduler.rs` and `handle.rs`. Tasks are numbered in the order of their insertion; the
slab maps keys to tasks and the pages hold their flags. A waker is the key of the task
that it was made for and outlives it. A handle is held until it is dropped or used to
take the task; `handles` lists the keys whose handle is held.

A call to `poll` runs tasks, and a task that runs may insert, wake and drop others. The
call is therefore cut where it runs a task: it enters a page, polls the next notified
task, removes the next dropped one, or ends. What happens while a task runs, or while
the values of a removed task are dropped, is an action like any other.
-/

namespace Capybara

open Runs

/-- The places where the scheduler panics. -/
inductive SchedulerFault where
  /-- `poll`: the slot of a notified task is vacant, unwrapped. -/
  | emptySlot
  /-- `take`: the handle was dropped. -/
  | takenAfterDrop
  /-- `take`: the slot is vacant, unwrapped. -/
  | takenTwice
  /-- A page that does not exist is indexed. -/
  | noPage
  /-- `insert_at`: the entry is occupied, unreachable. -/
  | occupiedEntry
  deriving DecidableEq, Repr

/-- Where a call to `poll` is: the page that it visits, the number of pages when it
began, what it has taken from the page and not yet handled, and the task that runs. -/
structure Visit where
  page : Nat
  pages : Nat
  notified : List Nat
  dropped : List Nat
  running : Option Nat
  deriving DecidableEq, Repr

/-- The key of a slot of the visited page. -/
def Visit.key (visit : Visit) (ix : Nat) : Nat := visit.page * 64 + ix

/-- `Scheduler`, with the handles that are held and the call to `poll` in progress. -/
structure Scheduler where
  slab : PinSlab Nat
  pages : List WakerPage
  inserted : Nat
  handles : List Nat
  visit : Option Visit
  deriving DecidableEq, Repr

/-- What happens to a scheduler. -/
inductive SchedulerAction where
  | insert
  | wake (key : Nat)
  | drop (key : Nat)
  | take (key : Nat)
  | poll
  /-- The call to `poll` goes on, unless a task runs. -/
  | advance
  /-- The task that runs returns, `Ready` or `Pending`. -/
  | returned (ready : Bool)
  deriving DecidableEq, Repr

namespace Scheduler

/-- `default`. -/
def default : Scheduler := ⟨.new, [], 0, [], none⟩

/-- `insert`. -/
def insert (scheduler : Scheduler) : Except SchedulerFault Scheduler :=
  match scheduler.slab.insert scheduler.inserted with
  | none => .error .occupiedEntry
  | some (key, slab) =>
    let pages := scheduler.pages ++
      List.replicate (key / 64 + 1 - scheduler.pages.length) WakerPage.default
    .ok { scheduler with
      slab
      pages := onPage pages key .initialize_
      inserted := scheduler.inserted + 1
      handles := key :: scheduler.handles }

/-- The waker of a task. -/
def wake (key : Nat) (scheduler : Scheduler) : Scheduler :=
  { scheduler with pages := onPage scheduler.pages key .notify }

/-- `SchedulerHandle::drop`. -/
def drop (key : Nat) (scheduler : Scheduler) : Scheduler :=
  if key ∈ scheduler.handles then
    { scheduler with
      pages := onPage scheduler.pages key .markDropped
      handles := scheduler.handles.erase key }
  else scheduler

/-- `take`. -/
def take (key : Nat) (scheduler : Scheduler) : Except SchedulerFault Scheduler :=
  if key ∈ scheduler.handles then
    if scheduler.pages.length ≤ key / 64 then .error .noPage
    else if flag WakerPage.dropped scheduler.pages key then .error .takenAfterDrop
    else match scheduler.slab.get key with
    | none => .error .takenTwice
    | some _ => .ok { scheduler with
        slab := scheduler.slab.remove key
        pages := onPage scheduler.pages key .clear
        handles := scheduler.handles.erase key }
  else .ok scheduler

/-- `poll` comes to a page, or to its end. -/
def enter (page pages : Nat) (scheduler : Scheduler) : Except SchedulerFault Scheduler :=
  if page < pages then
    match scheduler.pages[page]? with
    | none => .error .noPage
    | some current =>
      let (notified, current) := current.takeNotified
      let (dropped, current) := current.takeDropped
      .ok { scheduler with
        pages := scheduler.pages.set page current
        visit := some {
          page, pages, notified := bits notified, dropped := bits dropped, running := none } }
  else .ok { scheduler with visit := none }

/-- `poll` goes on in the page that it visits: with the next notified task, then with the
next dropped one, then with the next page. -/
def advance (scheduler : Scheduler) (visit : Visit) : Except SchedulerFault Scheduler :=
  match visit.notified with
  | ix :: notified =>
    match scheduler.slab.get (visit.key ix) with
    | none => .error .emptySlot
    | some _ => .ok { scheduler with visit := some { visit with notified, running := some ix } }
  | [] =>
    match visit.dropped with
    | ix :: dropped =>
      if ix ≠ 0 then
        .ok { scheduler with
          slab := scheduler.slab.remove (visit.key ix)
          pages := onPage scheduler.pages (visit.key ix) .clear
          visit := some { visit with dropped } }
      else .ok { scheduler with visit := some { visit with dropped } }
    | [] => scheduler.enter (visit.page + 1) visit.pages

/-- One action. A task does not call `poll`, and only a task that runs returns. -/
def step (scheduler : Scheduler) : SchedulerAction → Except SchedulerFault Scheduler
  | .insert => scheduler.insert
  | .wake key => .ok (scheduler.wake key)
  | .drop key => .ok (scheduler.drop key)
  | .take key => scheduler.take key
  | .poll =>
    match scheduler.visit with
    | none => scheduler.enter 0 scheduler.pages.length
    | some _ => .ok scheduler
  | .advance =>
    match scheduler.visit with
    | none => .ok scheduler
    | some visit => if visit.running.isSome then .ok scheduler else scheduler.advance visit
  | .returned ready =>
    match scheduler.visit with
    | none => .ok scheduler
    | some visit =>
      match visit.running with
      | none => .ok scheduler
      | some ix => .ok { scheduler with
          pages := if ready then onPage scheduler.pages (visit.key ix) .markCompleted
            else scheduler.pages
          visit := some { visit with running := none } }

/-- A successful action. -/
abbrev Transition := Runs.Transition Scheduler SchedulerAction

/-- The schedulers that can be reached, each with its past. -/
abbrev Run (start : Scheduler) := Runs.Run step start

/-! ## The keys of a call to `poll` -/

/-- The keys that the call has still to poll in its page. -/
def polling (scheduler : Scheduler) : List Nat :=
  (scheduler.visit.map fun visit => visit.notified.map visit.key).getD []

/-- The keys that it has still to remove there. -/
def dropping (scheduler : Scheduler) : List Nat :=
  (scheduler.visit.map fun visit => visit.dropped.map visit.key).getD []

/-- The key of the task that runs. -/
def running (scheduler : Scheduler) : Option Nat :=
  scheduler.visit.bind fun visit => visit.running.map visit.key

/-! ## What an action can do -/

/-- The outcomes of the actions. -/
inductive Outcome (before : Scheduler) : SchedulerAction → Scheduler → Prop where
  /-- Nothing happens: a call has begun already, no task runs that could return, or the
  call cannot go on. -/
  | idle {action : SchedulerAction}
      (begins : action = .poll → before.visit ≠ none)
      (returns : ∀ ready, action = .returned ready → before.running = none)
      (advances : action = .advance → before.visit = none ∨ before.running ≠ none) :
      Outcome before action before
  | inserted {key : Nat} {slab : PinSlab Nat}
      (inserts : before.slab.insert before.inserted = some (key, slab)) :
      Outcome before .insert { before with
        slab
        pages := onPage (before.pages ++
          List.replicate (key / 64 + 1 - before.pages.length) WakerPage.default) key .initialize_
        inserted := before.inserted + 1
        handles := key :: before.handles }
  | woken (key : Nat) : Outcome before (.wake key) { before with
        pages := onPage before.pages key .notify }
  | dropped {key : Nat} (held : key ∈ before.handles) : Outcome before (.drop key) { before with
        pages := onPage before.pages key .markDropped
        handles := before.handles.erase key }
  | taken {key : Nat} (held : key ∈ before.handles) : Outcome before (.take key) { before with
        slab := before.slab.remove key
        pages := onPage before.pages key .clear
        handles := before.handles.erase key }
  /-- The call comes to a page, as it begins or from the page before it. -/
  | entered {action : SchedulerAction} {page pages : Nat} {current : WakerPage}
      (from_ : action = .poll ∧ before.visit = none ∧ page = 0 ∧ pages = before.pages.length ∨
        action = .advance ∧ ∃ visit, before.visit = some visit ∧ visit.running = none ∧
          visit.notified = [] ∧ visit.dropped = [] ∧ page = visit.page + 1 ∧ pages = visit.pages)
      (inside : page < pages) (found : before.pages[page]? = some current) :
      Outcome before action { before with
        pages := before.pages.set page { current with notified := 0, dropped := 0 }
        visit := some {
          page, pages, running := none
          notified := bits (current.notified &&& ~~~current.completed &&& ~~~current.dropped)
          dropped := bits current.dropped } }
  /-- The call ends behind the last page, or at once if there is none. -/
  | ended {action : SchedulerAction}
      (from_ : action = .poll ∧ before.visit = none ∧ before.pages = [] ∨
        action = .advance ∧ ∃ visit, before.visit = some visit ∧ visit.running = none ∧
          visit.notified = [] ∧ visit.dropped = [] ∧ visit.pages ≤ visit.page + 1) :
      Outcome before action { before with visit := none }
  | polled {visit : Visit} {ix task : Nat} {notified : List Nat}
      (visits : before.visit = some visit) (still : visit.running = none)
      (next : visit.notified = ix :: notified)
      (occupied : before.slab.get (visit.key ix) = some task) :
      Outcome before .advance { before with
        visit := some { visit with notified, running := some ix } }
  | removed {visit : Visit} {ix : Nat} {dropped : List Nat}
      (visits : before.visit = some visit) (still : visit.running = none)
      (polled : visit.notified = []) (next : visit.dropped = ix :: dropped) (later : ix ≠ 0) :
      Outcome before .advance { before with
        slab := before.slab.remove (visit.key ix)
        pages := onPage before.pages (visit.key ix) .clear
        visit := some { visit with dropped } }
  /-- The first slot of a page is not vacated. -/
  | spared {visit : Visit} {dropped : List Nat}
      (visits : before.visit = some visit) (still : visit.running = none)
      (polled : visit.notified = []) (next : visit.dropped = 0 :: dropped) :
      Outcome before .advance { before with visit := some { visit with dropped } }
  | returned {visit : Visit} {ix : Nat} (ready : Bool)
      (visits : before.visit = some visit) (running : visit.running = some ix) :
      Outcome before (.returned ready) { before with
        pages := if ready then onPage before.pages (visit.key ix) .markCompleted else before.pages
        visit := some { visit with running := none } }

variable {scheduler scheduler' : Scheduler}

/-- Coming to a page or to the end. -/
theorem enter_outcome {action : SchedulerAction} {page pages : Nat}
    (from_ : action = .poll ∧ scheduler.visit = none ∧ page = 0 ∧ pages = scheduler.pages.length ∨
      action = .advance ∧ ∃ visit, scheduler.visit = some visit ∧ visit.running = none ∧
        visit.notified = [] ∧ visit.dropped = [] ∧ page = visit.page + 1 ∧ pages = visit.pages)
    (entered : scheduler.enter page pages = .ok scheduler') :
    Outcome scheduler action scheduler' := by
  unfold enter at entered
  split at entered
  · rename_i inside
    split at entered
    · cases entered
    · rename_i current found
      cases entered
      exact .entered from_ inside found
  · rename_i outside
    cases entered
    refine .ended ?_
    obtain ⟨begins, idle, rfl, rfl⟩ | ⟨goesOn, visit, visits, still, none, empty, rfl, rfl⟩ := from_
    · exact .inl ⟨begins, idle, List.eq_nil_of_length_eq_zero (Nat.eq_zero_of_not_pos outside)⟩
    · exact .inr ⟨goesOn, visit, visits, still, none, empty, Nat.le_of_not_lt outside⟩

/-- An action has one of the listed outcomes. -/
theorem step_outcome {action : SchedulerAction} (advanced : scheduler.step action = .ok scheduler') :
    Outcome scheduler action scheduler' := by
  cases action with
  | insert =>
    unfold step insert at advanced
    dsimp only at advanced
    split at advanced
    · cases advanced
    · rename_i key slab inserts
      cases advanced
      exact .inserted inserts
  | wake key =>
    cases advanced
    exact .woken key
  | drop key =>
    unfold step drop at advanced
    dsimp only at advanced
    split at advanced
    · rename_i held
      cases advanced
      exact .dropped held
    · cases advanced
      exact .idle (by simp) (by simp) (by simp)
  | take key =>
    unfold step take at advanced
    dsimp only at advanced
    split at advanced
    · rename_i held
      split at advanced
      · cases advanced
      split at advanced
      · cases advanced
      split at advanced
      · cases advanced
      · cases advanced
        exact .taken held
    · cases advanced
      exact .idle (by simp) (by simp) (by simp)
  | poll =>
    unfold step at advanced
    dsimp only at advanced
    split at advanced
    · rename_i none
      exact enter_outcome (.inl ⟨rfl, none, rfl, rfl⟩) advanced
    · rename_i visit visits
      cases advanced
      exact .idle (by simp [visits]) (by simp) (by simp)
  | advance =>
    unfold step at advanced
    dsimp only at advanced
    split at advanced
    · rename_i none
      cases advanced
      exact .idle (by simp) (by simp) fun _ => .inl none
    · rename_i visit visits
      split at advanced
      · rename_i runs
        cases advanced
        refine .idle (by simp) (by simp) fun _ => .inr ?_
        obtain ⟨ix, runs⟩ := Option.isSome_iff_exists.mp runs
        simp [running, visits, runs]
      · rename_i still
        have still : visit.running = none := by simpa using still
        unfold advance at advanced
        split at advanced
        · rename_i ix notified next
          split at advanced
          · cases advanced
          · rename_i task occupied
            cases advanced
            exact .polled visits still next occupied
        · rename_i polled
          split at advanced
          · rename_i ix dropped next
            split at advanced
            · rename_i later
              cases advanced
              exact .removed visits still polled next later
            · rename_i first
              obtain rfl : ix = 0 := by simpa using first
              cases advanced
              exact .spared visits still polled next
          · rename_i empty
            exact enter_outcome (.inr ⟨rfl, visit, visits, still, polled, empty, rfl, rfl⟩) advanced
  | returned ready =>
    unfold step at advanced
    dsimp only at advanced
    split at advanced
    · rename_i none
      cases advanced
      exact .idle (by simp) (fun _ _ => by simp [running, none]) (by simp)
    · rename_i visit visits
      split at advanced
      · rename_i none
        cases advanced
        exact .idle (by simp) (fun _ _ => by simp [running, visits, none]) (by simp)
      · rename_i ix running
        cases advanced
        exact .returned ready visits running

end Scheduler

end Capybara
