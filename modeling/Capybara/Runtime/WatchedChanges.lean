import Capybara.Lib.Runs
import Capybara.Runtime.Watched
import Mathlib.Data.List.Nodup

/-!
# Which modifications a watcher is told about

What `watch` promises is stated over a count of the modifications: its future is to be ready
when the count differs from that at the call. A future is put in the list of waiters by its
first poll, so what it tells is whether the value has been modified since then. The promise is
kept exactly if every future is polled for the first time before the value is modified again.

A node is in the list exactly while it is registered, whatever the order of the calls, so no
list refers to a future that is gone and every drop finds its node.
-/

namespace Capybara

open Slots Runs

namespace Watched

variable {α : Type}

/-- How often the value had been modified when a future was made, and when it was polled for
the first time. -/
structure WatchRecord where
  since : Nat
  polledAt : Option Nat
  deriving DecidableEq, Repr

/-- The value with the number of its modifications, as the rest of the stack has it, and the
futures. -/
structure Noted (α : Type) where
  watched : Capybara.WatchedValue α
  futures : Store WatchRecord

namespace Noted

/-- Nothing has happened. -/
def start (value : α) : Noted α := ⟨{ value }, []⟩

/-- A future is polled. -/
def polled (noted : Noted α) (id : FutureId) : Noted α :=
  match read noted.futures id with
  | some ⟨since, none⟩ =>
    { noted with futures := noted.futures.set id (some ⟨since, some noted.watched.changes⟩) }
  | _ => noted

/-- What is known after an action. -/
def note (noted : Noted α) : Action α → Noted α
  | .watch =>
    { noted with futures := noted.futures ++ [some ⟨noted.watched.changes, none⟩] }
  | .modify f => { noted with watched := noted.watched.set (f noted.watched.value) }
  | .set newValue => { noted with watched := noted.watched.set newValue }
  | .setWithoutNotify newValue =>
    { noted with watched := { noted.watched with value := newValue } }
  | .poll id _ => noted.polled id
  | .drop id => { noted with futures := noted.futures.set id none }

/-- What an action has to answer, given when a future has to be ready. -/
def Answers (ready : Noted α → WatchRecord → Bool) (noted : Noted α) :
    Action α → Answer α → Prop
  | .watch, answer => answer = .watching noted.watched.value (noted.futures.length - 1)
  | .poll id _, answer =>
    answer = match read noted.futures id with
      | none => .absent
      | some record => .polled (ready noted record)
  | .drop _, answer => answer = .done ∨ answer = .absent
  | _, answer => answer = .done

/-- The value has been modified since the future was made. -/
def changedSince (noted : Noted α) (record : WatchRecord) : Bool :=
  record.since ≠ noted.watched.changes

/-- The value has been modified since the future was polled for the first time. -/
def changedSincePoll (noted : Noted α) (record : WatchRecord) : Bool :=
  record.polledAt ≠ some noted.watched.changes

/-- A future that is polled for the first time is as old as the value. -/
def PolledInTime (noted : Noted α) : Action α → Prop
  | .poll id _ =>
    match read noted.futures id with
    | some ⟨since, none⟩ => since = noted.watched.changes
    | _ => True
  | _ => True

end Noted

/-! ## The list of waiters -/

/-- A future and what is known of it. -/
inductive Matches (changes : Nat) (waiters : List FutureId) (id : FutureId) :
    Option WatchFuture → Option WatchRecord → Prop where
  | gone : Matches changes waiters id none none
  | fresh (task : Option Waker) (since : Nat) (made : since ≤ changes) :
      Matches changes waiters id (some (.completable ⟨task, .unregistered⟩)) (some ⟨since, none⟩)
  | registered (task : Option Waker) (since : Nat) (made : since ≤ changes)
      (waiting : id ∈ waiters) :
      Matches changes waiters id (some (.completable ⟨task, .registered⟩))
        (some ⟨since, some changes⟩)
  | completed (task : Option Waker) (polled : Bool) (since first : Nat) (made : since ≤ first)
      (earlier : first < changes) :
      Matches changes waiters id (some (.completable ⟨task, .completed polled⟩))
        (some ⟨since, some first⟩)

/-- The futures are those that are known, and the waiters those that are registered. -/
structure Holds (watched : WatchedValue α) (noted : Noted α) : Prop where
  value : watched.value = noted.watched.value
  length : watched.futures.length = noted.futures.length
  distinct : watched.waiters.Nodup
  waiting : ∀ id ∈ watched.waiters,
    ∃ task, read watched.futures id = some (.completable ⟨task, .registered⟩)
  matched : ∀ id, Matches noted.watched.changes watched.waiters id (read watched.futures id)
    (read noted.futures id)

variable {watched : WatchedValue α} {noted : Noted α} {id : FutureId}

/-- A node that is there is completed. -/
theorem complete_ok {waitNode : WatchEntry}
    (held : read watched.futures id = some (.completable waitNode)) :
    ∃ completed, watched.complete id = .ok completed ∧ completed.value = watched.value ∧
      completed.waiters = watched.waiters ∧
      completed.futures.length = watched.futures.length ∧
      ∀ other, read completed.futures other =
        if other = id then some (.completable ⟨none, .completed false⟩)
        else read watched.futures other := by
  rw [WatchedValue.complete, held]
  exact ⟨_, rfl, rfl, rfl, List.length_set .., read_set (inside_of_read held) _⟩

/-- Nodes that are there are completed one after the other. -/
theorem complete_all {waiters : List FutureId} (distinct : waiters.Nodup)
    (there : ∀ id ∈ waiters, ∃ waitNode, read watched.futures id = some (.completable waitNode)) :
    ∃ completed, waiters.foldlM WatchedValue.complete watched = .ok completed ∧
      completed.value = watched.value ∧ completed.waiters = watched.waiters ∧
      completed.futures.length = watched.futures.length ∧
      ∀ id, read completed.futures id =
        if id ∈ waiters then some (.completable ⟨none, .completed false⟩)
        else read watched.futures id := by
  induction waiters generalizing watched with
  | nil => exact ⟨watched, rfl, rfl, rfl, rfl, fun id => (if_neg List.not_mem_nil).symm⟩
  | cons first waiters inductionHypothesis =>
    obtain ⟨others, distinct⟩ := List.nodup_cons.mp distinct
    obtain ⟨waitNode, held⟩ := there first List.mem_cons_self
    obtain ⟨next, once, value, list, length, futures⟩ := complete_ok held
    obtain ⟨completed, reached, value', list', length', futures'⟩ :=
      @inductionHypothesis next distinct (by
        intro id member
        have different : id ≠ first := fun same => others (same ▸ member)
        obtain ⟨waitNode, held⟩ := there id (List.mem_cons_of_mem _ member)
        exact ⟨waitNode, by rw [futures, if_neg different, held]⟩)
    refine ⟨completed, ?_, value'.trans value, list'.trans list, length'.trans length, ?_⟩
    · rw [List.foldlM_cons, once]
      exact reached
    · intro id
      rw [futures', futures]
      by_cases same : id = first
      · rw [if_pos same, if_pos (List.mem_cons.mpr (.inl same)), ite_self]
      · rw [if_neg same]
        exact if_congr (by simp [same]) rfl rfl

/-- What matches does not depend on the other waiters. -/
theorem Matches.congr {changes : Nat} {waiters waiters' : List FutureId}
    {future : Option WatchFuture} {record : Option WatchRecord}
    (matched : Matches changes waiters id future record) (kept : id ∈ waiters → id ∈ waiters') :
    Matches changes waiters' id future record := by
  cases matched with
  | gone => exact .gone
  | fresh task since made => exact .fresh task since made
  | registered task since made waiting => exact .registered task since made (kept waiting)
  | completed task polled since first made earlier =>
    exact .completed task polled since first made earlier

namespace Holds

/-- A new value has no futures. -/
theorem new (value : α) : Holds (.new value) (.start value) :=
  ⟨rfl, rfl, List.nodup_nil, fun _ member => absurd member List.not_mem_nil, fun _ => .gone⟩

/-- A new future has not been polled. -/
theorem watch (holds : Holds watched noted) : Holds watched.watch.2 (noted.note .watch) := by
  obtain ⟨value, length, distinct, waiting, matched⟩ := holds
  refine ⟨value, ?_, distinct, ?_, ?_⟩
  · simp only [WatchedValue.watch, Noted.note, List.length_append, length]
    rfl
  · intro id member
    obtain ⟨task, held⟩ := waiting id member
    refine ⟨task, ?_⟩
    rw [WatchedValue.watch, read_append, if_neg (Nat.ne_of_lt (inside_of_read held)), held]
  · intro id
    rw [WatchedValue.watch, Noted.note, read_append, read_append, ← length]
    by_cases new : id = watched.futures.length
    · rw [if_pos new, if_pos new]
      exact .fresh none _ (Nat.le_refl _)
    · rw [if_neg new, if_neg new]
      exact matched id

/-- A modification completes the futures that wait. -/
theorem modify (holds : Holds watched noted) (f : α → α) :
    ∃ watched', watched.modify f = .ok watched' ∧
      Holds watched' { noted with watched := noted.watched.set (f noted.watched.value) } := by
  obtain ⟨value, length, distinct, waiting, matched⟩ := holds
  obtain ⟨watched', reached, value', list, length', futures⟩ :=
    @complete_all _ { watched with value := f watched.value, waiters := [] }
      watched.waiters.reverse (List.nodup_reverse.mpr distinct) (by
        intro id member
        obtain ⟨task, held⟩ := waiting id (List.mem_reverse.mp member)
        exact ⟨_, held⟩)
  refine ⟨watched', reached, ?_, length'.trans length, ?_, ?_, ?_⟩
  · rw [value', value]
    rfl
  · rw [list]
    exact List.nodup_nil
  · intro id member
    rw [list] at member
    cases member
  · intro id
    have before := matched id
    have registered := waiting id
    rw [futures]
    dsimp only
    rw [list]
    generalize read watched.futures id = future at before registered ⊢
    generalize read noted.futures id = record at before ⊢
    by_cases member : id ∈ watched.waiters
    · obtain ⟨task, rfl⟩ := registered member
      rw [if_pos (List.mem_reverse.mpr member)]
      cases before with
      | registered _ since made _ => exact .completed none false since _ made (Nat.lt_succ_self _)
    · rw [if_neg (mt List.mem_reverse.mp member)]
      cases before with
      | gone => exact .gone
      | fresh task since made => exact .fresh task since (Nat.le_succ_of_le made)
      | registered task since made waiting => exact absurd waiting member
      | completed task polled since first made earlier =>
        exact .completed task polled since first made (Nat.lt_succ_of_lt earlier)

/-- A slot is written, and the list changes for no other slot. -/
theorem write (holds : Holds watched noted) (inside : id < watched.futures.length)
    {future : Option WatchFuture} {record : Option WatchRecord} {waiters : List FutureId}
    (distinct : waiters.Nodup)
    (others : ∀ other, other ≠ id → (other ∈ waiters ↔ other ∈ watched.waiters))
    (registered : id ∈ waiters → ∃ task, future = some (.completable ⟨task, .registered⟩))
    (matched : Matches noted.watched.changes waiters id future record) :
    Holds { watched with futures := watched.futures.set id future, waiters }
      { noted with futures := noted.futures.set id record } := by
  have inside' : id < noted.futures.length := holds.length ▸ inside
  constructor
  case value => exact holds.value
  case length => rw [List.length_set, List.length_set, holds.length]
  case distinct => exact distinct
  case waiting =>
    intro other member
    rw [read_set inside]
    by_cases same : other = id
    · subst same
      rw [if_pos rfl]
      exact registered member
    · rw [if_neg same]
      exact holds.waiting other ((others other same).mp member)
  case matched =>
    intro other
    rw [read_set inside, read_set inside']
    by_cases same : other = id
    · subst same
      rwa [if_pos rfl, if_pos rfl]
    · rw [if_neg same, if_neg same]
      exact (holds.matched other).congr (others other same).mpr

/-- A poll registers a future that has not been polled, and finds the others as they are. -/
theorem poll (holds : Holds watched noted) {future : WatchFuture} (waker : Waker)
    (held : read watched.futures id = some future) :
    ∃ record, read (noted.polled id).futures id = some record ∧
      (watched.poll id waker future).2 = (noted.polled id).changedSincePoll record ∧
      Holds (watched.poll id waker future).1 (noted.polled id) := by
  have inside := inside_of_read held
  have inside' : id < noted.futures.length := holds.length ▸ inside
  have matched := holds.matched id
  rw [held] at matched
  generalize known : read noted.futures id = record at matched
  have unchanged {since first : Nat} (known : read noted.futures id = some ⟨since, some first⟩) :
      noted.polled id = noted ∧ { noted with
        futures := noted.futures.set id (some ⟨since, some first⟩) } = noted := by
    rw [Noted.polled, known, set_read known]
    exact ⟨rfl, rfl⟩
  have rest : ∀ other, other ≠ id → (other ∈ watched.waiters ↔ other ∈ watched.waiters) :=
    fun _ _ => Iff.rfl
  cases matched with
  | fresh task since made =>
    have outside : id ∉ watched.waiters := by
      intro member
      obtain ⟨task, held'⟩ := holds.waiting id member
      cases held.symm.trans held'
    have polled : noted.polled id = { noted with
        futures := noted.futures.set id (some ⟨since, some noted.watched.changes⟩) } := by
      rw [Noted.polled, known]
    have front : ∀ other, other ≠ id → (other ∈ id :: watched.waiters ↔ other ∈ watched.waiters) :=
      fun other different =>
        ⟨fun member => (List.mem_cons.mp member).resolve_left different, List.mem_cons_of_mem _⟩
    rw [polled]
    refine ⟨⟨since, some noted.watched.changes⟩, ?_, ?_, ?_⟩
    · rw [read_set inside', if_pos rfl]
    · simp [WatchedValue.poll, Noted.changedSincePoll]
    · exact holds.write inside (List.nodup_cons.mpr ⟨outside, holds.distinct⟩) front
        (fun _ => ⟨some waker, rfl⟩) (.registered (some waker) since made List.mem_cons_self)
  | registered task since made waiting =>
    obtain ⟨polled, kept⟩ := unchanged known
    rw [polled]
    refine ⟨_, known, ?_, ?_⟩
    · simp [WatchedValue.poll, Noted.changedSincePoll]
    · rw [← kept]
      exact holds.write inside holds.distinct rest (fun _ => ⟨_, rfl⟩)
        (.registered _ since made waiting)
  | completed task polled since first made earlier =>
    obtain ⟨polled, kept⟩ := unchanged known
    have outside : id ∉ watched.waiters := by
      intro member
      obtain ⟨task, held'⟩ := holds.waiting id member
      cases held.symm.trans held'
    rw [polled]
    refine ⟨_, known, ?_, ?_⟩
    · simp [WatchedValue.poll, Noted.changedSincePoll, Nat.ne_of_lt earlier]
    · rw [← kept]
      exact holds.write inside holds.distinct rest (fun member => absurd member outside)
        (.completed task true since first made earlier)

/-- A future that is dropped is in the list if it is registered. -/
theorem drop (holds : Holds watched noted) {future : WatchFuture}
    (held : read watched.futures id = some future) :
    ∃ watched', watched.dropFuture id future = .ok watched' ∧
      Holds watched' (noted.note (.drop id)) := by
  have inside := inside_of_read held
  have matched := holds.matched id
  rw [held] at matched
  have gone : ∀ waiters, Matches noted.watched.changes waiters id none none := fun _ => .gone
  have leaves (outside : id ∉ watched.waiters) :
      Holds (watched.free id) (noted.note (.drop id)) :=
    holds.write inside holds.distinct (fun _ _ => Iff.rfl) (fun member => absurd member outside)
      (gone _)
  have free {state : WatchState} {task : Option Waker} (different : state ≠ .registered)
      (held : read watched.futures id = some (.completable ⟨task, state⟩)) :
      id ∉ watched.waiters := by
    intro member
    obtain ⟨task, held'⟩ := holds.waiting id member
    cases held.symm.trans held'
    exact different rfl
  generalize read noted.futures id = record at matched
  cases matched with
  | fresh task since made => exact ⟨_, rfl, leaves (free (by decide) held)⟩
  | registered task since made waiting =>
    refine ⟨_, if_pos waiting, ?_⟩
    refine holds.write inside (holds.distinct.erase id) ?_ ?_ (gone _)
    · intro other different
      exact List.mem_erase_of_ne different
    · intro member
      exact absurd member holds.distinct.not_mem_erase
  | completed task polled since first made earlier =>
    exact ⟨_, rfl, leaves (free (by simp) held)⟩

/-- A value that is set without notice leaves the futures as they are. -/
theorem setWithoutNotify (holds : Holds watched noted) (newValue : α) :
    Holds (watched.setWithoutNotify newValue) (noted.note (.setWithoutNotify newValue)) :=
  ⟨rfl, holds.length, holds.distinct, holds.waiting, holds.matched⟩

/-- A future that is not there is not known. -/
theorem absent (holds : Holds watched noted) (gone : read watched.futures id = none) :
    read noted.futures id = none := by
  have matched := holds.matched id
  rw [gone] at matched
  generalize read noted.futures id = record at matched
  cases matched
  rfl

end Holds

/-- Nothing is known of a future that is not there. -/
theorem Noted.polled_absent (gone : read noted.futures id = none) : noted.polled id = noted := by
  rw [Noted.polled, gone]

/-- Dropping a future that is gone changes nothing. -/
theorem Noted.drop_absent (gone : read noted.futures id = none) :
    noted.note (.drop id) = noted := by
  rw [Noted.note, set_absent gone]

/-- Every action is carried out, and a poll finds whether the value has been modified since the
first one. -/
theorem serve_exact (holds : Holds watched noted) (action : Action α) :
    ∃ watched' answer, serve watched action = .ok (watched', answer) ∧
      (noted.note action).Answers Noted.changedSincePoll action answer ∧
      Holds watched' (noted.note action) := by
  cases action with
  | watch =>
    refine ⟨_, _, rfl, ?_, holds.watch⟩
    simp [Noted.Answers, Noted.note, WatchedValue.get, holds.value, holds.length]
  | modify f =>
    obtain ⟨watched', reached, holds'⟩ := holds.modify f
    exact ⟨watched', .done, by rw [serve, reached]; rfl, rfl, holds'⟩
  | set newValue =>
    obtain ⟨watched', reached, holds'⟩ := holds.modify fun _ => newValue
    exact ⟨watched', .done, by rw [serve, WatchedValue.set, reached]; rfl, rfl, holds'⟩
  | setWithoutNotify newValue => exact ⟨_, _, rfl, rfl, holds.setWithoutNotify newValue⟩
  | poll id waker =>
    cases held : read watched.futures id with
    | none =>
      have gone := holds.absent held
      rw [Noted.note, Noted.polled_absent gone]
      refine ⟨watched, .absent, by rw [serve, held], ?_, holds⟩
      rw [Noted.Answers, gone]
    | some future =>
      obtain ⟨record, known, ready, holds'⟩ := holds.poll waker held
      refine ⟨_, _, by rw [serve, held], ?_, holds'⟩
      rw [Noted.Answers, Noted.note, known, ready]
  | drop id =>
    cases held : read watched.futures id with
    | none =>
      rw [Noted.drop_absent (holds.absent held)]
      exact ⟨watched, .absent, by rw [serve, held], .inr rfl, holds⟩
    | some future =>
      obtain ⟨watched', reached, holds'⟩ := holds.drop held
      exact ⟨watched', .done, by rw [serve, held]; simp only [reached]; rfl, .inl rfl, holds'⟩

/-- Whatever is done in whatever order, nothing fails, and a future is ready if the value has
been modified since it was polled for the first time.

Proof: the futures that wait are those in the list, by `Holds`, which every action keeps; so
counting the modifications instead of keeping the list says the same about every future. -/
theorem serves_exact (value : α) (actions : List (Action α)) :
    Serves serve Noted.note (Noted.Answers Noted.changedSincePoll) (.new value) (.start value)
      actions := by
  have holds := Holds.new value
  revert holds
  generalize WatchedValue.new value = watched
  generalize Noted.start value = noted
  intro holds
  induction actions generalizing watched noted with
  | nil => trivial
  | cons action later inductionHypothesis =>
    obtain ⟨watched', answer, served, right, holds'⟩ := serve_exact holds action
    exact ⟨watched', answer, served, right, inductionHypothesis watched' _ holds'⟩

/-! ## Futures that are polled in time -/

/-- Every future that has been polled was as old as the value when it was polled first. -/
def Noted.Prompt (noted : Noted α) : Prop :=
  ∀ id since first, read noted.futures id = some ⟨since, some first⟩ → first = since

/-- A future that is polled for the first time while it is as old as the value stays prompt. -/
theorem Noted.Prompt.note (prompt : noted.Prompt) {action : Action α}
    (inTime : noted.PolledInTime action) : (noted.note action).Prompt := by
  intro id since first known
  cases action with
  | watch =>
    rw [Noted.note, read_append] at known
    split at known
    · cases known
    · exact prompt id since first known
  | modify f => exact prompt id since first known
  | set newValue => exact prompt id since first known
  | setWithoutNotify newValue => exact prompt id since first known
  | drop gone => exact prompt id since first (read_of_read_erased known)
  | poll polled waker =>
    rw [Noted.note, Noted.polled] at known
    split at known
    · rename_i made fresh
      rw [Noted.PolledInTime, fresh] at inTime
      rw [read_set (inside_of_read fresh)] at known
      split at known
      · cases known
        exact inTime.symm
      · exact prompt id since first known
    · exact prompt id since first known

/-- A future that has been polled is known to have been. -/
theorem Noted.polledAt_some {record : WatchRecord}
    (known : read (noted.polled id).futures id = some record) :
    ∃ first, record.polledAt = some first := by
  rw [Noted.polled] at known
  split at known
  · rename_i made fresh
    rw [read_set (inside_of_read fresh), if_pos rfl] at known
    cases known
    exact ⟨_, rfl⟩
  · rename_i others
    obtain ⟨since, _ | first⟩ := record
    · exact absurd known (others since)
    · exact ⟨first, rfl⟩

/-- As long as all futures are polled in time, the two ways to look at a change agree. -/
theorem Noted.Prompt.answers_iff {action : Action α} (prompt : (noted.note action).Prompt)
    {answer : Answer α} :
    (noted.note action).Answers changedSince action answer ↔
      (noted.note action).Answers changedSincePoll action answer := by
  cases action with
  | poll id waker =>
    simp only [Noted.Answers]
    cases known : read (noted.note (.poll id waker)).futures id with
    | none => exact Iff.rfl
    | some record =>
      obtain ⟨first, polled⟩ := Noted.polledAt_some known
      obtain ⟨since, _⟩ := record
      cases polled
      have same := prompt id since first known
      simp only [changedSince, changedSincePoll, same, ne_eq, Option.some.injEq]
  | _ => exact Iff.rfl

/-- Over every sequence of calls, a future is ready at a poll exactly if the value has been
modified since it was handed out, and nothing fails, if and only if each future is polled for
the first time before the next modification.

Proof: the rule for systems that answer exactly under a condition. `serve_exact` says
what a future answers in every case, that is by the changes since its first poll; this
is the specified answer exactly if nothing was changed before that poll. -/
theorem serves_iff_polledInTime (value : α) (actions : List (Action α)) :
    Serves serve Noted.note (Noted.Answers Noted.changedSince) (.new value) (.start value)
      actions ↔ Admits Noted.note Noted.PolledInTime (.start value) actions := by
  apply @serves_iff _ _ _ _ _ _ _ _ _ (fun _ => True) fun watched noted =>
    Holds watched noted ∧ noted.Prompt
  case allowing => exact fun _ _ => trivial
  case initially => exact ⟨.new value, fun _ _ _ known => nomatch known⟩
  case enough =>
    rintro watched noted action - ⟨holds, prompt⟩ inTime
    obtain ⟨watched', answer, served, right, holds'⟩ := serve_exact holds action
    have prompt' := prompt.note inTime
    exact ⟨watched', answer, served, prompt'.answers_iff.mpr right, holds', prompt'⟩
  case needed =>
    rintro watched noted action watched' answer - ⟨holds, prompt⟩ served right
    obtain ⟨_, _, served', exact, -⟩ := serve_exact holds action
    cases served.symm.trans served'
    cases action with
    | poll id waker =>
      rw [Noted.PolledInTime]
      split
      · rename_i since fresh
        have known : read (noted.note (.poll id waker)).futures id =
            some ⟨since, some noted.watched.changes⟩ := by
          rw [Noted.note, Noted.polled, fresh]
          exact (read_set (inside_of_read fresh) _ _).trans (if_pos rfl)
        have unchanged : (noted.note (.poll id waker)).watched = noted.watched := by
          rw [Noted.note, Noted.polled, fresh]
        rw [Noted.Answers, known] at right exact
        have ready := Answer.polled.inj (right.symm.trans exact)
        simpa [Noted.changedSince, Noted.changedSincePoll, unchanged] using ready
      · trivial
    | _ => trivial

/-- The modification comes between `watch` and the first poll, and the future is not ready. -/
theorem early_change_not_served :
    ¬ ∀ actions : List (Action Nat),
      Serves serve Noted.note (Noted.Answers Noted.changedSince) (.new 0) (.start 0) actions := by
  intro claimed
  obtain ⟨_, _, served, -, _, _, modified, -, _, _, polled, right, -⟩ :=
    claimed [.watch, .set 1, .poll 0 0]
  cases served
  cases modified
  cases polled
  have ready : (Answer.polled false : Answer Nat) = .polled true := right
  exact absurd ready (by decide)

end Watched

end Capybara
