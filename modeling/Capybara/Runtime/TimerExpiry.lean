import Capybara.Lib.Runs
import Capybara.Runtime.Timer

/-!
# When a timer wakes whom

The purpose of a timer is stated for each future alone: it waits from its first poll on if that is
ahead of its deadline, for the waker that it was polled with last, until the clock reaches the
deadline. The timer does this for all its futures together. Its heap holds the nodes of those
that wait and no others, and the least of them is looked at first, so the loop stops exactly when
no time has come that was waited for.
-/

namespace Capybara

open Slots Runs PairingHeap

namespace Timers

/-! ## What a timer is for -/

/-- What has become of a future. -/
inductive Life where
  | created
  | waiting (waker : Waker)
  | expired
  | finished
  deriving DecidableEq, Repr

/-- A future for itself. -/
structure WaitRecord where
  deadline : Instant
  life : Life
  deriving DecidableEq, Repr

namespace WaitRecord

/-- It is polled. -/
def polled (clock : Instant) (waker : Waker) (record : WaitRecord) : WaitRecord :=
  match record.life with
  | .created =>
    { record with life := if record.deadline ≤ clock then .finished else .waiting waker }
  | .waiting _ => { record with life := .waiting waker }
  | .expired | .finished => { record with life := .finished }

/-- It waits for a time that has come. -/
def due (clock : Instant) (record : WaitRecord) : Option Waker :=
  match record.life with
  | .waiting waker => if record.deadline ≤ clock then some waker else none
  | _ => none

/-- The clock is advanced. -/
def passed (clock : Instant) (record : WaitRecord) : WaitRecord :=
  if (record.due clock).isSome then { record with life := .expired } else record

end WaitRecord

/-- The clock, the futures, and the wakers that each slot has been woken with. -/
structure Noted where
  clock : Instant
  futures : Store WaitRecord
  woken : FutureId → List Waker

namespace Noted

/-- Nothing has happened. -/
def start (now : Instant) : Noted := ⟨now, [], fun _ => []⟩

/-- A future is made. -/
def created (noted : Noted) (deadline : Instant) : Noted :=
  { noted with futures := noted.futures ++ [some ⟨deadline, .created⟩] }

/-- What is known after an action. -/
def note (noted : Noted) : Action → Noted
  | .wait timeout => noted.created (noted.clock + timeout)
  | .waitUntil expiry => noted.created expiry
  | .poll id waker =>
    { noted with
      futures := noted.futures.set id
        ((read noted.futures id).map (WaitRecord.polled noted.clock waker)) }
  | .drop id => { noted with futures := noted.futures.set id none }
  | .advanceClock now =>
    { clock := now
      futures := noted.futures.map (Option.map (WaitRecord.passed now))
      woken := fun id =>
        noted.woken id ++ ((read noted.futures id).bind (WaitRecord.due now)).toList }

/-- The answer of an action. -/
def answer (noted : Noted) : Action → Answer
  | .wait _ | .waitUntil _ => .waiting (noted.futures.length - 1)
  | .poll id _ =>
    match read noted.futures id with
    | none => .absent
    | some record => .polled (record.life = .finished)
  | .drop _ | .advanceClock _ => .done

/-- What an action has to answer, and how it has to leave the timer. -/
structure Behaves (noted : Noted) (action : Action) (seen : Answer × Timer) : Prop where
  answer : seen.1 = noted.answer action
  clock : seen.2.now = noted.clock
  woken : ∀ id, seen.2.wokenBy id = noted.woken id
  expired : ∀ id deadline, read noted.futures id = some ⟨deadline, .expired⟩ →
    ∃ future, read seen.2.futures id = some future ∧ future.waitNode.state = .expired
  distinct : seen.2.heap.elements.Nodup
  queued : ∀ expiry id, ⟨expiry, id⟩ ∈ seen.2.heap.elements ↔
    ∃ waker, read noted.futures id = some ⟨expiry, .waiting waker⟩
  ahead : ∀ id deadline waker, read noted.futures id = some ⟨deadline, .waiting waker⟩ →
    noted.clock < deadline

/-- The clock does not go back, and no future is polled again that has been ready. -/
def Proper (noted : Noted) : Action → Prop
  | .poll id _ => ∀ deadline, read noted.futures id ≠ some ⟨deadline, .finished⟩
  | .advanceClock now => noted.clock ≤ now
  | _ => True

end Noted

/-! ## The loop -/

/-- A future that is registered for some time. -/
def Registered (future : Option WaitFuture) (expiry : Instant) : Prop :=
  ∃ waker, future = some ⟨true, ⟨expiry, some waker, .registered⟩⟩

/-- A future that is gone is not registered. -/
theorem not_registered_none (expiry : Instant) : ¬ Registered none expiry := by
  rintro ⟨_, wrong⟩
  cases wrong

/-- Neither is one in another state. -/
theorem not_registered {ptr : Bool} {deadline : Instant} {task : Option Waker} {state : PollState}
    (other : state ≠ .registered) (expiry : Instant) :
    ¬ Registered (some ⟨ptr, ⟨deadline, task, state⟩⟩) expiry := by
  rintro ⟨_, same⟩
  cases same
  exact other rfl

/-- The heap holds the nodes of the futures that are registered. -/
structure Heaped (heap : PairingHeap HeapNode) (futures : Store WaitFuture) : Prop where
  ordered : heap.Ordered HeapNode.expiry
  distinct : heap.elements.Nodup
  queued : ∀ expiry id, ⟨expiry, id⟩ ∈ heap.elements ↔ Registered (read futures id) expiry

/-- The waker of a registered future whose time has come. -/
def WaitFuture.due (now : Instant) : WaitFuture → Option Waker
  | ⟨true, ⟨expiry, some waker, .registered⟩⟩ => if expiry ≤ now then some waker else none
  | _ => none

/-- What becomes of a future when the clock is advanced. -/
def WaitFuture.passed (now : Instant) (future : WaitFuture) : WaitFuture :=
  if (future.due now).isSome then
    { future with waitNode := { future.waitNode with task := none, state := .expired } }
  else future

variable {timer : Timer} {noted : Noted} {now : Instant} {id : FutureId}

namespace Heaped

variable {heap : PairingHeap HeapNode} {futures : Store WaitFuture} {future : Option WaitFuture}
  {expiry : Instant}

/-- A slot is written, and the heap changes for no other slot. -/
theorem write (heaped : Heaped heap futures) (inside : id < futures.length)
    {heap' : PairingHeap HeapNode} (ordered : heap'.Ordered HeapNode.expiry)
    (distinct : heap'.elements.Nodup)
    (others : ∀ node, node.id ≠ id → (node ∈ heap'.elements ↔ node ∈ heap.elements))
    (own : ∀ expiry, ⟨expiry, id⟩ ∈ heap'.elements ↔ Registered future expiry) :
    Heaped heap' (futures.set id future) := by
  refine ⟨ordered, distinct, fun expiry other => ?_⟩
  rw [read_set inside]
  by_cases same : other = id
  · subst same
    rw [if_pos rfl, own]
  · rw [if_neg same, others _ same, heaped.queued]

/-- The heap stays as it is if a future remains registered or not. -/
theorem keep (heaped : Heaped heap futures) (inside : id < futures.length)
    (same : ∀ expiry, Registered (read futures id) expiry ↔ Registered future expiry) :
    Heaped heap (futures.set id future) :=
  heaped.write inside heaped.ordered heaped.distinct (fun _ _ => Iff.rfl) fun expiry =>
    (heaped.queued expiry id).trans (same expiry)

/-- A future that is registered is put in the heap. -/
theorem insert (heaped : Heaped heap futures) (inside : id < futures.length)
    (free : ∀ expiry, ¬ Registered (read futures id) expiry) (waker : Waker) :
    Heaped (heap.insert HeapNode.expiry ⟨expiry, id⟩)
      (futures.set id (some ⟨true, ⟨expiry, some waker, .registered⟩⟩)) := by
  have outside (expiry : Instant) : ⟨expiry, id⟩ ∉ heap.elements :=
    fun member => free expiry ((heaped.queued expiry id).mp member)
  refine heaped.write inside (heaped.ordered.insert _) ?_ ?_ ?_
  · rw [elements_insert, Multiset.nodup_cons]
    exact ⟨outside expiry, heaped.distinct⟩
  · intro node different
    rw [elements_insert, Multiset.mem_cons, or_iff_right]
    rintro rfl
    exact different rfl
  · intro expiry'
    rw [elements_insert, Multiset.mem_cons, or_iff_left (outside expiry')]
    constructor
    · intro same
      cases same
      exact ⟨waker, rfl⟩
    · rintro ⟨waker', same⟩
      cases same
      rfl

/-- A future that is not registered any more is taken out of it. -/
theorem remove (heaped : Heaped heap futures)
    (registered : Registered (read futures id) expiry)
    (gone : ∀ expiry, ¬ Registered future expiry) :
    ∃ heap', heap.remove HeapNode.expiry ⟨expiry, id⟩ = .ok heap' ∧ heap'.size + 1 = heap.size ∧
      Heaped heap' (futures.set id future) := by
  obtain ⟨heap', removed, elements, ordered⟩ :=
    heaped.ordered.remove ((heaped.queued expiry id).mpr registered)
  obtain ⟨waker, held⟩ := registered
  have distinct := heaped.distinct
  rw [elements, Multiset.nodup_cons] at distinct
  refine ⟨heap', removed, ?_, heaped.write (inside_of_read held) ordered distinct.2 ?_ ?_⟩
  · rw [PairingHeap.size, PairingHeap.size, elements, Multiset.card_cons]
  · intro node different
    rw [elements, Multiset.mem_cons, or_iff_right]
    rintro rfl
    exact different rfl
  · intro expiry'
    refine iff_of_false (fun member => ?_) (gone expiry')
    have before := (heaped.queued expiry' id).mp (elements ▸ Multiset.mem_cons_of_mem member)
    obtain ⟨waker', held'⟩ := before
    cases held.symm.trans held'
    exact distinct.1 member

end Heaped

/-- Waking a future calls the waker of this future only. -/
theorem wokenBy_wake (timer : Timer) (first id : FutureId) (future : WaitFuture) :
    (timer.wake first future).wokenBy id =
      timer.wokenBy id ++ if first = id then future.waitNode.task.toList else [] := by
  simp only [Timer.wokenBy, Timer.wake, List.filterMap_append]
  cases future.waitNode.task with
  | none => split <;> rfl
  | some waker =>
    split
    · simp [*]
    · simp [*]

/-- A registered future whose time has come is due, with its waker. -/
theorem WaitFuture.due_registered {expiry : Instant} (due : expiry ≤ now) (waker : Waker) :
    (⟨true, ⟨expiry, some waker, .registered⟩⟩ : WaitFuture).due now = some waker := if_pos due

/-- Only such a future is due. -/
theorem WaitFuture.due_eq_some {future : WaitFuture} {waker : Waker}
    (due : future.due now = some waker) :
    ∃ expiry, future = ⟨true, ⟨expiry, some waker, .registered⟩⟩ ∧ expiry ≤ now := by
  unfold WaitFuture.due at due
  split at due
  · rename_i expiry waker'
    split at due
    · cases due
      exact ⟨expiry, rfl, ‹_›⟩
    · cases due
  · cases due

/-- A future that is not due does not change as time passes. -/
theorem WaitFuture.passed_of_none {future : WaitFuture} (ahead : future.due now = none) :
    future.passed now = future := by
  rw [WaitFuture.passed, ahead]
  rfl

/-- The loop stops if no node is left whose time has come. -/
theorem expireDue_stops (heaped : Heaped timer.heap timer.futures) (turns : Nat)
    (later : ∀ node ∈ timer.heap.elements, now < node.expiry) :
    timer.expireDue now turns = .ok timer := by
  rw [Timer.expireDue.eq_def]
  cases peeked : timer.heap.peekMin with
  | none => rfl
  | some first =>
    have member := (heaped.ordered.peekMin peeked).1
    obtain ⟨waker, held⟩ := (heaped.queued first.expiry first.id).mp member
    dsimp only
    rw [held]
    exact if_pos (later first member)

/-- A turn takes the least node out if its time has come. -/
theorem expireDue_turn (heaped : Heaped timer.heap timer.futures) {first : HeapNode}
    (peeked : timer.heap.peekMin = some first) (due : first.expiry ≤ now) :
    ∃ (waker : Waker) (timer' : Timer),
      read timer.futures first.id = some ⟨true, ⟨first.expiry, some waker, .registered⟩⟩ ∧
      (∀ turns, timer.expireDue now (turns + 1) = timer'.expireDue now turns) ∧
      timer'.now = timer.now ∧ timer'.futures =
        timer.futures.set first.id (some ⟨true, ⟨first.expiry, none, .expired⟩⟩) ∧
      (∀ id, timer'.wokenBy id = timer.wokenBy id ++ if first.id = id then [waker] else []) ∧
      timer'.heap.size + 1 = timer.heap.size ∧ Heaped timer'.heap timer'.futures := by
  have registered := (heaped.queued first.expiry first.id).mp (heaped.ordered.peekMin peeked).1
  obtain ⟨heap, removed, size, heaped'⟩ :=
    @Heaped.remove _ _ _ (some ⟨true, ⟨first.expiry, none, .expired⟩⟩) _ heaped registered
      (not_registered (by decide))
  obtain ⟨waker, held⟩ := registered
  refine ⟨waker, { timer.wake first.id ⟨true, ⟨first.expiry, some waker, .registered⟩⟩ with heap },
    held, ?_, rfl, rfl, fun id => wokenBy_wake timer first.id id _, size, heaped'⟩
  intro turns
  rw [Timer.expireDue.eq_def, peeked]
  dsimp only
  rw [held]
  dsimp only
  rw [if_neg (Nat.not_lt.mpr due)]
  change (timer.heap.remove HeapNode.expiry first >>= _) = _
  rw [removed]
  rfl

/-- If no node is left whose time has come, then no future is. -/
theorem expireDue_rests (heaped : Heaped timer.heap timer.futures) (turns : Nat)
    (later : ∀ node ∈ timer.heap.elements, now < node.expiry) :
    ∃ timer', timer.expireDue now turns = .ok timer' ∧ timer'.now = timer.now ∧
      timer'.futures.length = timer.futures.length ∧ Heaped timer'.heap timer'.futures ∧
      ∀ id, read timer'.futures id = (read timer.futures id).map (WaitFuture.passed now) ∧
        timer'.wokenBy id =
          timer.wokenBy id ++ ((read timer.futures id).bind (WaitFuture.due now)).toList := by
  refine ⟨timer, expireDue_stops heaped turns later, rfl, rfl, heaped, fun id => ?_⟩
  cases held : read timer.futures id with
  | none => exact ⟨rfl, (List.append_nil _).symm⟩
  | some future =>
    have ahead : future.due now = none := by
      refine Option.eq_none_iff_forall_ne_some.mpr fun waker due => ?_
      obtain ⟨expiry, rfl, reached⟩ := WaitFuture.due_eq_some due
      exact Nat.not_lt.mpr reached (later _ ((heaped.queued expiry id).mpr ⟨waker, held⟩))
    rw [Option.map_some, Option.bind_some, ahead, WaitFuture.passed_of_none ahead]
    exact ⟨rfl, (List.append_nil _).symm⟩

/-- The loop ends, and has done with every future what becomes of it. -/
theorem expireDue_ok (heaped : Heaped timer.heap timer.futures) {turns : Nat} (enough : timer.heap.size ≤ turns) :
    ∃ timer', timer.expireDue now turns = .ok timer' ∧ timer'.now = timer.now ∧
      timer'.futures.length = timer.futures.length ∧ Heaped timer'.heap timer'.futures ∧
      ∀ id, read timer'.futures id = (read timer.futures id).map (WaitFuture.passed now) ∧
        timer'.wokenBy id =
          timer.wokenBy id ++ ((read timer.futures id).bind (WaitFuture.due now)).toList := by
  induction turns generalizing timer with
  | zero =>
    have empty : timer.heap.elements = 0 := Multiset.card_eq_zero.mp (Nat.le_zero.mp enough)
    exact expireDue_rests heaped 0 fun node member => by rw [empty] at member; cases member
  | succ turns inductionHypothesis =>
    by_cases later : ∀ node ∈ timer.heap.elements, now < node.expiry
    · exact expireDue_rests heaped (turns + 1) later
    obtain ⟨node, member, due⟩ : ∃ node ∈ timer.heap.elements, node.expiry ≤ now := by
      simpa only [not_forall, not_lt, exists_prop] using later
    obtain ⟨first, peeked⟩ : ∃ first, timer.heap.peekMin = some first := by
      refine Option.ne_none_iff_exists'.mp fun none => ?_
      rw [peekMin_eq_none.mp none] at member
      cases member
    have least := ((heaped.ordered.peekMin peeked).2 node member).trans due
    obtain ⟨waker, next, held, turn, clock, futures, woken, size, heaped'⟩ :=
      expireDue_turn heaped peeked least
    obtain ⟨timer', ended, clock', length, heaped'', each⟩ :=
      inductionHypothesis heaped' (by omega)
    refine ⟨timer', (turn turns).trans ended, clock'.trans clock, ?_, heaped'', fun id => ?_⟩
    · rw [length, futures, List.length_set]
    obtain ⟨left, called⟩ := each id
    rw [left, called, woken, futures, read_set (inside_of_read held)]
    by_cases same : id = first.id
    · subst same
      have fires := WaitFuture.due_registered least waker
      rw [if_pos rfl, if_pos rfl, held]
      constructor
      · rw [Option.map_some, Option.map_some, WaitFuture.passed, WaitFuture.passed, fires]
        rfl
      · simp only [Option.bind_some, fires]
        exact List.append_nil _
    · rw [if_neg same, if_neg (Ne.symm same), List.append_nil]
      exact ⟨rfl, rfl⟩

/-! ## All futures together -/

/-- A future and what is known of it. -/
inductive Matches (clock : Instant) : Option WaitFuture → Option WaitRecord → Prop where
  | gone : Matches clock none none
  | created (expiry : Instant) :
      Matches clock (some ⟨true, ⟨expiry, none, .unregistered⟩⟩) (some ⟨expiry, .created⟩)
  | waiting (expiry : Instant) (waker : Waker) (ahead : clock < expiry) :
      Matches clock (some ⟨true, ⟨expiry, some waker, .registered⟩⟩)
        (some ⟨expiry, .waiting waker⟩)
  | expired (expiry : Instant) :
      Matches clock (some ⟨true, ⟨expiry, none, .expired⟩⟩) (some ⟨expiry, .expired⟩)
  | finished (expiry : Instant) :
      Matches clock (some ⟨false, ⟨expiry, none, .expired⟩⟩) (some ⟨expiry, .finished⟩)

/-- The futures are those that are known, and the heap is that of the registered ones. -/
structure Holds (timer : Timer) (noted : Noted) : Prop where
  clock : timer.now = noted.clock
  length : timer.futures.length = noted.futures.length
  woken : ∀ id, timer.wokenBy id = noted.woken id
  heaped : Heaped timer.heap timer.futures
  matched : ∀ id, Matches noted.clock (read timer.futures id) (read noted.futures id)

/-- The futures that are registered are those that wait. -/
theorem Matches.registered_iff {clock : Instant} {future : Option WaitFuture}
    {record : Option WaitRecord} (matched : Matches clock future record) (expiry : Instant) :
    Registered future expiry ↔ ∃ waker, record = some ⟨expiry, .waiting waker⟩ := by
  cases matched with
  | waiting expiry' waker ahead =>
    constructor
    · rintro ⟨_, same⟩
      cases same
      exact ⟨waker, rfl⟩
    · rintro ⟨_, same⟩
      cases same
      exact ⟨waker, rfl⟩
  | _ =>
    constructor
    · rintro ⟨_, wrong⟩
      cases wrong
    · rintro ⟨_, wrong⟩
      cases wrong

/-- A future that has waited long enough is in that state. -/
theorem Matches.expired_state {clock deadline : Instant} {future : Option WaitFuture}
    (matched : Matches clock future (some ⟨deadline, .expired⟩)) :
    ∃ expired, future = some expired ∧ expired.waitNode.state = .expired := by
  cases matched with
  | expired => exact ⟨_, rfl, rfl⟩

/-- A future that waits is ahead of the clock. -/
theorem Matches.ahead {clock expiry : Instant} {future : Option WaitFuture} {waker : Waker}
    (matched : Matches clock future (some ⟨expiry, .waiting waker⟩)) : clock < expiry := by
  cases matched with
  | waiting _ _ ahead => exact ahead

/-- Both agree on who is woken when the clock is advanced. -/
theorem Matches.passed {clock : Instant} {future : Option WaitFuture} {record : Option WaitRecord}
    (matched : Matches clock future record) (now : Instant) :
    Matches now (future.map (WaitFuture.passed now)) (record.map (WaitRecord.passed now)) ∧
      future.bind (WaitFuture.due now) = record.bind (WaitRecord.due now) := by
  cases matched with
  | gone => exact ⟨.gone, rfl⟩
  | created expiry => exact ⟨.created expiry, rfl⟩
  | waiting expiry waker ahead =>
    refine ⟨?_, rfl⟩
    simp only [Option.map_some, WaitFuture.passed, WaitRecord.passed, WaitFuture.due,
      WaitRecord.due]
    by_cases due : expiry ≤ now
    · simp only [if_pos due]
      exact .expired expiry
    · simp only [if_neg due]
      exact .waiting expiry waker (Nat.not_le.mp due)
  | expired expiry => exact ⟨.expired expiry, rfl⟩
  | finished expiry => exact ⟨.finished expiry, rfl⟩

namespace Holds

/-- A new timer has no futures. -/
theorem new (now : Instant) : Holds (.new now) (.start now) where
  clock := rfl
  length := rfl
  woken _ := rfl
  heaped := ⟨ordered_new, Multiset.nodup_zero, fun _ _ =>
    iff_of_false (Multiset.notMem_zero _) fun ⟨_, wrong⟩ => nomatch wrong⟩
  matched _ := .gone

/-- A future that is made is not in the heap. -/
theorem waitUntil (holds : Holds timer noted) (expiry : Instant) :
    Holds (timer.waitUntil expiry).2 (noted.created expiry) := by
  obtain ⟨clock, length, woken, heaped, matched⟩ := holds
  refine ⟨clock, ?_, woken, ⟨heaped.ordered, heaped.distinct, ?_⟩, ?_⟩
  · simp only [Timer.waitUntil, Noted.created, List.length_append, List.length_singleton, length]
  · intro expiry' id
    rw [Timer.waitUntil, read_append]
    refine (heaped.queued expiry' id).trans ?_
    split
    · rename_i next
      refine iff_of_false ?_ (not_registered (by decide) _)
      rintro ⟨_, held⟩
      exact absurd (inside_of_read held) (next ▸ Nat.lt_irrefl _)
    · exact Iff.rfl
  · intro id
    rw [Timer.waitUntil, Noted.created, read_append, read_append, ← length]
    split
    · exact .created expiry
    · exact matched id

/-- A slot is written. -/
theorem write (holds : Holds timer noted) (inside : id < timer.futures.length)
    {future : Option WaitFuture} {record : Option WaitRecord} {heap : PairingHeap HeapNode}
    (heaped : Heaped heap (timer.futures.set id future))
    (matched : Matches noted.clock future record) :
    Holds { timer with heap, futures := timer.futures.set id future }
      { noted with futures := noted.futures.set id record } := by
  have inside' : id < noted.futures.length := holds.length ▸ inside
  refine ⟨holds.clock, ?_, holds.woken, heaped, fun other => ?_⟩
  · rw [List.length_set, List.length_set, holds.length]
  · rw [read_set inside, read_set inside']
    split
    · exact matched
    · exact holds.matched other

/-- A future that is dropped is taken out of the heap if it is there. -/
theorem drop (holds : Holds timer noted) {future : WaitFuture}
    (held : read timer.futures id = some future) :
    ∃ timer', timer.dropFuture id future = .ok timer' ∧ Holds timer' (noted.note (.drop id)) := by
  have inside := inside_of_read held
  have matched := holds.matched id
  have leaves (free : ∀ expiry, ¬ Registered (read timer.futures id) expiry) :
      Holds (timer.free id) (noted.note (.drop id)) :=
    holds.write inside
      (holds.heaped.keep inside fun expiry => iff_of_false (free expiry) (not_registered_none expiry)) .gone
  have free := matched.registered_iff
  rw [held] at matched
  generalize read noted.futures id = record at matched free
  cases matched with
  | waiting expiry waker ahead =>
    obtain ⟨heap, removed, -, heaped⟩ := holds.heaped.remove ⟨waker, held⟩ not_registered_none
    refine ⟨_, ?_, holds.write inside heaped .gone⟩
    rw [Timer.dropFuture, if_pos ⟨rfl, rfl⟩]
    simp only [removed]
    rfl
  | _ =>
    refine ⟨_, rfl, leaves fun expiry registered => ?_⟩
    obtain ⟨_, wrong⟩ := (free expiry).mp registered
    cases wrong

/-- The clock is advanced, and those that have waited long enough are woken. -/
theorem advanceClock (holds : Holds timer noted) (forward : noted.clock ≤ now) :
    ∃ timer', timer.advanceClock now = .ok timer' ∧
      Holds timer' (noted.note (.advanceClock now)) := by
  obtain ⟨timer', ended, -, length, heaped, each⟩ :=
    @expireDue_ok _ now holds.heaped _ (Nat.le_refl _)
  refine ⟨{ timer' with now }, ?_, rfl, ?_, fun id => ?_, heaped, fun id => ?_⟩
  · rw [Timer.advanceClock, if_pos (holds.clock ▸ forward), ended]
    rfl
  · simp only [Noted.note, List.length_map, length, holds.length]
  · have due := ((holds.matched id).passed now).2
    simp only [Noted.note, ← due, ← holds.woken]
    exact (each id).2
  · simp only [Noted.note, read_map, (each id).1]
    exact ((holds.matched id).passed now).1

end Holds

/-- What a poll of a future that is there has to answer. -/
theorem Noted.answer_poll {record : WaitRecord} (known : read noted.futures id = some record)
    (waker : Waker) :
    (noted.note (.poll id waker)).answer (.poll id waker) =
      .polled ((record.polled noted.clock waker).life = .finished) := by
  rw [Noted.note, Noted.answer, known]
  dsimp only
  rw [read_set (inside_of_read known), if_pos rfl]
  rfl

/-- A future that is polled is ready if its time has come, and else waits for the waker. -/
theorem Holds.poll (holds : Holds timer noted) {future : WaitFuture} (waker : Waker)
    (held : read timer.futures id = some future) (proper : noted.Proper (.poll id waker)) :
    ∃ ready timer', timer.poll id waker future = .ok (ready, timer') ∧
      .polled ready = (noted.note (.poll id waker)).answer (.poll id waker) ∧
      Holds timer' (noted.note (.poll id waker)) := by
  have inside := inside_of_read held
  have matched := holds.matched id
  have free := matched.registered_iff
  have clock := holds.clock
  rw [held] at matched
  generalize known : read noted.futures id = record at matched free
  cases matched with
  | created expiry =>
    rw [Noted.answer_poll known, Noted.note, known]
    have outside (expiry : Instant) : ¬ Registered (read timer.futures id) expiry := by
      rw [held]
      exact not_registered (by decide) expiry
    by_cases due : expiry ≤ noted.clock
    · refine ⟨true, timer.put id false ⟨expiry, none, .expired⟩, ?_, ?_, ?_⟩
      · rw [Timer.poll, if_neg Bool.noConfusion]
        exact if_pos (clock ▸ due)
      · simp only [WaitRecord.polled, if_pos due]
        rfl
      · simp only [Option.map_some, WaitRecord.polled, if_pos due]
        refine holds.write inside (holds.heaped.keep inside fun expiry => ?_) (.finished expiry)
        exact iff_of_false (outside expiry) (not_registered (by decide) expiry)
    · refine ⟨false, { timer.put id true ⟨expiry, some waker, .registered⟩ with
        heap := timer.heap.insert HeapNode.expiry ⟨expiry, id⟩ }, ?_, ?_, ?_⟩
      · rw [Timer.poll, if_neg Bool.noConfusion]
        exact if_neg (clock ▸ due)
      · simp only [WaitRecord.polled, if_neg due]
        rfl
      · simp only [Option.map_some, WaitRecord.polled, if_neg due]
        exact holds.write inside (holds.heaped.insert inside outside waker)
          (.waiting expiry waker (Nat.not_le.mp due))
  | waiting expiry stored ahead =>
    rw [Noted.answer_poll known, Noted.note, known]
    have task : (if some stored = some waker then some stored else some waker) = some waker := by
      split
      · assumption
      · rfl
    refine ⟨false, timer.put id true ⟨expiry, some waker, .registered⟩, ?_, rfl, ?_⟩
    · rw [Timer.poll, if_neg Bool.noConfusion]
      dsimp only
      rw [task]
    · refine holds.write inside (holds.heaped.keep inside fun expiry' => ?_)
        (.waiting expiry waker ahead)
      rw [free]
      constructor
      · rintro ⟨_, same⟩
        cases same
        exact ⟨waker, rfl⟩
      · rintro ⟨_, same⟩
        cases same
        exact ⟨stored, rfl⟩
  | expired expiry =>
    rw [Noted.answer_poll known, Noted.note, known]
    refine ⟨true, timer.put id false ⟨expiry, none, .expired⟩, rfl, rfl, ?_⟩
    refine holds.write inside (holds.heaped.keep inside fun expiry => ?_) (.finished expiry)
    rw [held]
    exact iff_of_false (not_registered (by decide) expiry) (not_registered (by decide) expiry)
  | finished expiry => exact absurd known (proper expiry)

/-- A future that is not there is not known. -/
theorem Holds.absent (holds : Holds timer noted) (gone : read timer.futures id = none) :
    read noted.futures id = none := by
  have matched := holds.matched id
  rw [gone] at matched
  generalize read noted.futures id = record at matched
  cases matched
  rfl

/-- The answer with which a future is made. -/
theorem Holds.answer_created (holds : Holds timer noted) (deadline : Instant) :
    Answer.waiting timer.futures.length =
      .waiting ((noted.created deadline).futures.length - 1) := by
  rw [Noted.created, List.length_append, holds.length]
  rfl

/-- Every proper action returns, and leaves the timer as what is known says. -/
theorem act_exact (holds : Holds timer noted) {action : Action} (proper : noted.Proper action) :
    ∃ timer' answer, act timer action = .ok (timer', answer) ∧
      answer = (noted.note action).answer action ∧ Holds timer' (noted.note action) := by
  cases action with
  | wait timeout =>
    refine ⟨(timer.waitUntil (timer.now + timeout)).2, _, rfl, holds.answer_created _, ?_⟩
    rw [Noted.note, ← holds.clock]
    exact holds.waitUntil _
  | waitUntil expiry => exact ⟨_, _, rfl, holds.answer_created expiry, holds.waitUntil expiry⟩
  | poll id waker =>
    cases held : read timer.futures id with
    | none =>
      have gone := holds.absent held
      have same : noted.note (.poll id waker) = noted := by
        rw [Noted.note, gone, Option.map_none, set_absent gone]
      rw [same, Noted.answer, gone]
      exact ⟨timer, .absent, by rw [act, held], rfl, holds⟩
    | some future =>
      obtain ⟨ready, timer', polled, answer, holds'⟩ := holds.poll waker held proper
      exact ⟨timer', .polled ready, by rw [act, held]; simp only [polled]; rfl, answer, holds'⟩
  | drop id =>
    cases held : read timer.futures id with
    | none =>
      have same : noted.note (.drop id) = noted := by
        rw [Noted.note, set_absent (holds.absent held)]
      rw [same]
      exact ⟨timer, .done, by rw [act, held], rfl, holds⟩
    | some future =>
      obtain ⟨timer', dropped, holds'⟩ := holds.drop held
      exact ⟨timer', .done, by rw [act, held]; simp only [dropped]; rfl, rfl, holds'⟩
  | advanceClock now =>
    obtain ⟨timer', advanced, holds'⟩ := holds.advanceClock proper
    exact ⟨timer', .done, by rw [act, advanced]; rfl, rfl, holds'⟩

/-- Any other action is refused. -/
theorem act_improper (holds : Holds timer noted) {action : Action}
    (improper : ¬ noted.Proper action) : ∃ fault, act timer action = .error fault := by
  cases action with
  | poll id waker =>
    obtain ⟨deadline, known⟩ := not_forall_not.mp improper
    have matched := holds.matched id
    rw [known] at matched
    generalize held : read timer.futures id = future at matched
    cases matched with
    | finished =>
      refine ⟨.polledAfterCompletion, ?_⟩
      rw [act, held]
      rfl
  | advanceClock now =>
    refine ⟨.clockBackwards, ?_⟩
    rw [act, Timer.advanceClock, if_neg (holds.clock ▸ improper)]
    rfl
  | _ => exact absurd trivial improper

/-- What is seen of a timer that holds what is known. -/
theorem Holds.behaves (holds : Holds timer noted) {action : Action} {answer : Answer}
    (right : answer = noted.answer action) : noted.Behaves action (answer, timer) where
  answer := right
  clock := holds.clock
  woken := holds.woken
  expired id _ known := (known ▸ holds.matched id).expired_state
  distinct := holds.heaped.distinct
  queued expiry id := (holds.heaped.queued expiry id).trans ((holds.matched id).registered_iff _)
  ahead id _ _ known := (known ▸ holds.matched id).ahead

/-- For every sequence of futures made, polled and dropped and of clocks advanced: every call
returns, a first poll is ready exactly if the deadline has been reached, a future that waits is
woken once, with the waker stored last, by the first clock that is not before its deadline, and
nothing else is woken or in the heap, if and only if the clock does not go back and no future is
polled after it has been ready.

Proof: the rule for systems that answer exactly under a condition, with the relation
`Holds` between the heap and the futures that wait. `act_exact` computes every proper
action, with the laws of the pairing heap, and `act_improper` the fault of any other. -/
theorem serves_iff_proper (now : Instant) (actions : List Action) :
    Serves serve Noted.note Noted.Behaves (.new now) (.start now) actions ↔
      Admits Noted.note Noted.Proper (.start now) actions := by
  apply @serves_iff _ _ _ _ _ _ _ _ _ (fun _ => True) Holds
  case allowing => exact fun _ _ => trivial
  case initially => exact .new now
  case enough =>
    rintro timer noted action - holds proper
    obtain ⟨timer', answer, acted, right, holds'⟩ := act_exact holds proper
    exact ⟨timer', (answer, timer'), by rw [serve, acted]; rfl, holds'.behaves right, holds'⟩
  case needed =>
    rintro timer noted action timer' seen - holds served -
    by_contra improper
    obtain ⟨fault, refused⟩ := act_improper holds improper
    rw [serve, refused] at served
    cases served

end Timers

end Capybara
