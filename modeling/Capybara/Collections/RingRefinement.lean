import Capybara.Collections.Ring
import Capybara.Lib.Fifo
import Capybara.Lib.Runs

/-!
# The ring buffer as a bounded queue

The producer and the consumer take their steps in any order. What they commit, by storing
an index, is the log of a queue that holds at most one item less than there are slots.

The indices are counts modulo the number of slots: the front index counts the items taken,
the back index the items put in. An index that a thread has cached is a count of the past.
The consumer may have moved on since the producer loaded the front index, which only leaves
more room; the producer may have moved on since the consumer loaded the back index, which
only leaves more items. A thread's own index is never stale, since it alone stores it.
-/

namespace Capybara

open Runs Fifo

variable {τ : Type}

namespace RingThreads

/-- A step that has been taken. -/
abbrev Transition (τ : Type) := Runs.Transition (RingThreads τ) (RingAction τ)

/-- The states reached from a ring with idle threads, with the steps that have been taken. -/
abbrev Run (profile : Profile) (ring : RingBuffer τ) :
    List (Transition τ) → RingThreads τ → Prop :=
  Runs.Run (step profile) (start ring)

/-- What a step commits: the store of an index ends a successful call. -/
def committed (transition : Transition τ) : Option (Event τ) :=
  match transition.action, transition.source.producer, transition.source.consumer with
  | .producer _, .written item _, _ => some (.enqueue item)
  | .consumer, _, .taken item _ => some (.dequeue item)
  | _, _, _ => none

/-- The commits of the past, most recent first. -/
def commits (past : List (Transition τ)) : List (Event τ) := past.filterMap committed

/-- How many items had been put in and not taken when the latest `try_enqueue` loaded the
front index. -/
def observed : List (Transition τ) → Nat
  | [] => 0
  | transition :: past =>
    match transition.action, transition.source.producer with
    | .producer _, .idle =>
      (enqueued (commits past)).length - (dequeued (commits past)).length
    | _, _ => observed past

/-- A reached state with the queue it stands for. -/
structure Refines (profile : Profile) (capacity : Nat) (past : List (Transition τ))
    (threads : RingThreads τ) (queue : List τ) : Prop where
  /-- The commits are the log of the queue. -/
  log : Log (capacity - 1) (commits past) queue
  /-- Each item held is in its slot. -/
  intact : ∀ position item, queue[position]? = some item →
    threads.ring.buffer[(threads.ring.frontPtr + position) % capacity]? = some (some item)
  /-- The slot about to be written is not that of an item held. -/
  untouched : ∀ item backCached, threads.producer = .checked item backCached →
    ∀ position < queue.length, (threads.ring.frontPtr + position) % capacity ≠ backCached
  /-- `try_enqueue` fails exactly when it has observed as many items as can be held. -/
  refused : ∀ item frontCached next target, threads.producer = .loaded item frontCached →
    step profile threads (.producer next) = .ok target →
      (target.producer = .idle ↔ observed past = capacity - 1)
  /-- `try_dequeue` fails exactly when it observes no item. -/
  starved : ∀ frontCached target, threads.consumer = .loaded frontCached →
    step profile threads .consumer = .ok target → (target.consumer = .idle ↔ queue = [])
  /-- No step of either thread fails. -/
  returns : ∀ action, ∃ target, step profile threads action = .ok target
  isFull : threads.ring.isFull profile = .ok (decide (queue.length = capacity - 1))
  isEmpty : threads.ring.isEmpty = queue.isEmpty
  capacity : threads.ring.capacity profile = .ok (capacity - 1)

end RingThreads

/-! ## The ring -/

namespace RingBuffer

/-- The ring stores the queue, after `taken` items have been taken. -/
structure Holds (capacity taken : Nat) (queue : List τ) (ring : RingBuffer τ) : Prop where
  power : capacity.isPowerOfTwo
  representable : capacity < 2 ^ 64
  room : queue.length < capacity
  size : ring.buffer.length = capacity
  mask : ring.mask = capacity - 1
  front : ring.frontPtr = taken % capacity
  back : ring.backPtr = (taken + queue.length) % capacity
  stored : Stored ring.buffer taken queue

/-- A ring is created for the powers of two for which memory can be laid out. -/
theorem new_ok_iff {size align capacity : Nat} :
    (∃ ring, new τ size align capacity = .ok ring) ↔
      capacity.isPowerOfTwo ∧ layoutFits size align capacity := by
  unfold new RawArray.new
  split
  · rename_i odd
    simp [odd]
  · rename_i power
    rw [not_not] at power
    rw [if_neg (Nat.pos_of_isPowerOfTwo power).ne']
    split
    · rename_i fits
      simp [power, fits, bind, Except.bind, pure, Except.pure]
    · rename_i large
      simp [large, bind, Except.bind]

/-- A new ring holds nothing. -/
theorem holds_new {size align capacity : Nat} {ring : RingBuffer τ}
    (created : new τ size align capacity = .ok ring) (representable : capacity < 2 ^ 64) :
    Holds capacity 0 [] ring := by
  obtain ⟨power, fits⟩ := new_ok_iff.mp ⟨ring, created⟩
  have positive : 0 < capacity := Nat.pos_of_isPowerOfTwo power
  have empty : ring = ⟨0, 0, List.replicate capacity none, capacity - 1⟩ := by
    unfold new RawArray.new at created
    rw [if_neg (not_not.mpr power), if_neg (Nat.pos_of_isPowerOfTwo power).ne', if_pos fits] at created
    cases created
    rfl
  subst empty
  exact ⟨power, representable, positive, List.length_replicate, rfl, (Nat.zero_mod _).symm,
    (Nat.zero_mod _).symm, .nil⟩

namespace Holds

variable {capacity taken : Nat} {queue : List τ} {ring : RingBuffer τ}

/-- The index after a valid one wraps around at the capacity. -/
theorem next (holds : ring.Holds capacity taken queue) (profile : Profile) (count : Nat) :
    ring.next profile (count % capacity) = .ok ((count + 1) % capacity) := by
  have positive : 0 < capacity := Nat.zero_lt_of_lt holds.room
  have below : count % capacity < capacity := Nat.mod_lt _ positive
  have representable := holds.representable
  obtain ⟨exponent, rfl⟩ := holds.power
  unfold RingBuffer.next addUsize
  rw [if_pos (by omega), holds.mask]
  show Except.ok ((count % 2 ^ exponent + 1) &&& (2 ^ exponent - 1)) = _
  rw [Nat.and_two_pow_sub_one_eq_mod, Nat.mod_add_mod]

/-- The ring is full when the queue leaves one slot free. -/
theorem full_iff {count held : Nat} (room : held < capacity) :
    (count + held + 1) % capacity = count % capacity ↔ held = capacity - 1 := by
  constructor
  · intro same
    by_contra short
    have distinct := @cell_ne capacity count 0 (held + 1) (Nat.succ_pos _) (by omega)
    exact distinct same.symm
  · intro full
    have round : count + held + 1 = count + capacity := by omega
    rw [round, Nat.add_mod_right]

/-- The ring is empty when the queue is. -/
theorem empty_iff (holds : ring.Holds capacity taken queue) :
    ring.backPtr = ring.frontPtr ↔ queue = [] := by
  rw [holds.back, holds.front]
  constructor
  · intro same
    by_contra some
    have positive : 0 < queue.length := List.length_pos_of_ne_nil some
    exact @cell_ne capacity taken 0 queue.length positive holds.room same.symm
  · rintro rfl
    rfl

/-- The ring is full when it holds one element less than it has places. -/
theorem isFull_eq (holds : ring.Holds capacity taken queue) (profile : Profile) :
    ring.isFull profile = .ok (decide (queue.length = capacity - 1)) := by
  unfold isFull
  dsimp only
  rw [holds.back, holds.next profile, holds.front]
  refine congrArg Except.ok ?_
  rw [Bool.eq_iff_iff, beq_iff_eq, decide_eq_true_iff]
  exact full_iff holds.room

/-- The ring is empty when it holds nothing. -/
theorem isEmpty_eq (holds : ring.Holds capacity taken queue) :
    ring.isEmpty = queue.isEmpty := by
  rw [Bool.eq_iff_iff, List.isEmpty_iff, ← holds.empty_iff]
  exact beq_iff_eq

/-- The capacity is one less than the number of places. -/
theorem capacity_eq (holds : ring.Holds capacity taken queue) (profile : Profile) :
    ring.capacity profile = .ok (capacity - 1) := by
  unfold RingBuffer.capacity subUsize
  rw [holds.size, if_pos (Nat.one_le_of_lt holds.room)]

/-- The slot after the last item can be written; the ring still stores the queue. -/
theorem write (holds : ring.Holds capacity taken queue) (item : τ) :
    ∃ after, ring.write ring.backPtr item = .ok after ∧ after.Holds capacity taken queue ∧
      after.frontPtr = ring.frontPtr ∧ after.backPtr = ring.backPtr ∧
      after.buffer[after.backPtr]? = some (some item) := by
  have positive : 0 < capacity := Nat.zero_lt_of_lt holds.room
  have inside : ring.backPtr < ring.buffer.length := by
    rw [holds.back, holds.size]
    exact Nat.mod_lt _ positive
  have untouched : Stored (ring.buffer.set ring.backPtr (some item)) taken queue := by
    rw [holds.back, ← holds.size]
    exact holds.stored.write (holds.room.trans_eq holds.size.symm) _
  exact ⟨_, if_pos inside,
    { holds with size := List.length_set.trans holds.size, stored := untouched }, rfl, rfl,
    List.getElem?_set_self inside⟩

/-- Storing the back index after the slot has been written puts the item in. -/
theorem commit_back (holds : ring.Holds capacity taken queue) {item : τ}
    (room : queue.length + 1 < capacity)
    (written : ring.buffer[ring.backPtr]? = some (some item)) (profile : Profile) :
    ∃ back, ring.next profile ring.backPtr = .ok back ∧
      Holds capacity taken (queue ++ [item]) { ring with backPtr := back } := by
  have length : (queue ++ [item]).length = queue.length + 1 := List.length_append
  refine ⟨(taken + queue.length + 1) % capacity, ?_, ?_⟩
  · rw [holds.back]
    exact holds.next profile _
  · rw [holds.back, ← holds.size] at written
    exact { holds with
      room := by rwa [length]
      back := by rw [length, Nat.add_assoc]
      stored := holds.stored.push written }

/-- The slot of the first item can be read. -/
theorem read {item : τ} (holds : ring.Holds capacity taken (item :: queue)) :
    ring.read ring.frontPtr = .ok item := by
  unfold RingBuffer.read
  rw [holds.front, ← holds.size, holds.stored.head]

/-- Storing the front index takes the first item. -/
theorem commit_front {item : τ} (holds : ring.Holds capacity taken (item :: queue))
    (profile : Profile) :
    ∃ front, ring.next profile ring.frontPtr = .ok front ∧
      Holds capacity (taken + 1) queue { ring with frontPtr := front } := by
  refine ⟨(taken + 1) % capacity, ?_, ?_⟩
  · rw [holds.front]
    exact holds.next profile _
  · exact { holds with
      room := (Nat.lt_succ_self _).trans holds.room
      front := rfl
      back := by rw [holds.back, List.length_cons, Nat.add_assoc, Nat.add_comm 1]
      stored := holds.stored.pop }

end Holds

end RingBuffer

namespace RingBuffer.Holds

variable {capacity taken : Nat} {queue : List τ} {ring : RingBuffer τ}

/-- A call of `try_enqueue` that nothing interleaves with puts its item in, unless as many
are held as can be. -/
theorem tryEnqueue (holds : ring.Holds capacity taken queue) (profile : Profile) (item : τ) :
    (queue.length = capacity - 1 ∧ ring.tryEnqueue profile item = .ok (ring, .error item)) ∨
    (queue.length < capacity - 1 ∧ ∃ after, ring.tryEnqueue profile item = .ok (after, .ok ()) ∧
      after.Holds capacity taken (queue ++ [item])) := by
  have room := holds.room
  have following := holds.next profile (taken + queue.length)
  rw [← holds.back] at following
  unfold RingBuffer.tryEnqueue
  by_cases full : queue.length = capacity - 1
  · have met : (taken + queue.length + 1) % capacity = ring.frontPtr :=
      ((full_iff room).mpr full).trans holds.front.symm
    refine .inl ⟨full, ?_⟩
    simp only [following, bind, Except.bind, if_pos met]
    rfl
  · have free : ¬ (taken + queue.length + 1) % capacity = ring.frontPtr :=
      fun met => full ((full_iff room).mp (met.trans holds.front))
    obtain ⟨after, written, afterHolds, front, back, slot⟩ := holds.write item
    obtain ⟨index, advanced, committed⟩ := afterHolds.commit_back (by omega) slot profile
    rw [back] at advanced
    refine .inr ⟨by omega, _, ?_, committed⟩
    simp only [following, written, advanced, bind, Except.bind, if_neg free]
    rfl

/-- A call of `try_dequeue` that nothing interleaves with takes the first item, if there is
one. -/
theorem tryDequeue (holds : ring.Holds capacity taken queue) (profile : Profile) :
    (queue = [] ∧ ring.tryDequeue profile = .ok (ring, none)) ∨
    ∃ item rest after, queue = item :: rest ∧ ring.tryDequeue profile = .ok (after, some item) ∧
      after.Holds capacity (taken + 1) rest := by
  unfold RingBuffer.tryDequeue
  cases queue with
  | nil =>
    refine .inl ⟨rfl, ?_⟩
    simp only [if_pos (holds.empty_iff.mpr rfl)]
    rfl
  | cons item rest =>
    have some : ¬ ring.backPtr = ring.frontPtr := mt holds.empty_iff.mp (List.cons_ne_nil _ _)
    obtain ⟨front, advanced, committed⟩ := holds.commit_front profile
    refine .inr ⟨item, rest, _, rfl, ?_, committed⟩
    simp only [if_neg some, holds.read, advanced, bind, Except.bind]
    rfl

end RingBuffer.Holds

/-! ## The threads -/

/-- What a producer knows of the ring. It has seen the number of items taken at some moment
and the number of items there were then. -/
def Enqueuing.Knows (capacity taken : Nat) (queue : List τ) (ring : RingBuffer τ)
    (observed : Nat) : Enqueuing τ → Prop
  | .idle => True
  | .loaded _ frontCached => ∃ seen ≤ taken, frontCached = seen % capacity ∧
      taken + queue.length = seen + observed ∧ observed < capacity
  | .checked _ backCached => backCached = ring.backPtr ∧ queue.length + 1 < capacity
  | .written item backCached => backCached = ring.backPtr ∧ queue.length + 1 < capacity ∧
      ring.buffer[ring.backPtr]? = some (some item)

/-- What a consumer knows of the ring. -/
def Dequeuing.Knows (queue : List τ) (ring : RingBuffer τ) : Dequeuing τ → Prop
  | .idle => True
  | .loaded frontCached => frontCached = ring.frontPtr
  | .checked frontCached => frontCached = ring.frontPtr ∧ queue ≠ []
  | .taken item frontCached => frontCached = ring.frontPtr ∧ queue.head? = some item

namespace RingThreads

/-- The invariant: the ring stores the queue of the log, and the threads know what the
accesses they have made tell them. -/
structure Holds (capacity : Nat) (past : List (Transition τ)) (threads : RingThreads τ)
    (queue : List τ) : Prop where
  log : Log (capacity - 1) (commits past) queue
  ring : threads.ring.Holds capacity (dequeued (commits past)).length queue
  producer : threads.producer.Knows capacity (dequeued (commits past)).length queue threads.ring
    (observed past)
  consumer : threads.consumer.Knows queue threads.ring

namespace Holds

variable {capacity : Nat} {past : List (Transition τ)} {threads : RingThreads τ}
  {queue : List τ}

/-- A step of the producer. Only the last one of a successful call changes the queue. -/
theorem produce (holds : Holds capacity past threads queue) (profile : Profile) (next : τ) :
    ∃ target queue', step profile threads (.producer next) = .ok target ∧
      Holds capacity (⟨threads, .producer next, target⟩ :: past) target queue' := by
  obtain ⟨ring, producer, consumer⟩ := threads
  obtain ⟨log, ringHolds, producerKnows, consumerKnows⟩ := holds
  dsimp only at ringHolds producerKnows consumerKnows
  cases producer with
  | idle =>
    have count : observed (⟨⟨ring, .idle, consumer⟩, .producer next,
        ⟨ring, .loaded next ring.frontPtr, consumer⟩⟩ :: past) = queue.length := by
      show (enqueued (commits past)).length - (dequeued (commits past)).length = _
      rw [log.count, Nat.add_sub_cancel_left]
    refine ⟨_, queue, rfl, log, ringHolds, ?_, consumerKnows⟩
    exact ⟨_, Nat.le_refl _, ringHolds.front, by rw [count], by rw [count]; exact ringHolds.room⟩
  | loaded item frontCached =>
    obtain ⟨seen, earlier, cached, count, bounded⟩ := producerKnows
    have advanced : ring.next profile ring.backPtr =
        .ok ((seen + observed past + 1) % capacity) := by
      rw [ringHolds.back, count]
      exact ringHolds.next profile _
    by_cases full : (seen + observed past + 1) % capacity = frontCached
    · refine ⟨⟨ring, .idle, consumer⟩, queue, ?_, log, ringHolds, trivial, consumerKnows⟩
      simp only [step, RingThreads.produce, advanced, bind, Except.bind, if_pos full]
      rfl
    · refine ⟨⟨ring, .checked item ring.backPtr, consumer⟩, queue, ?_, log, ringHolds,
        ⟨rfl, ?_⟩, consumerKnows⟩
      · simp only [step, RingThreads.produce, advanced, bind, Except.bind, if_neg full]
        rfl
      · -- The consumer can only have taken more since the front index was loaded.
        rw [cached, RingBuffer.Holds.full_iff bounded] at full
        omega
  | checked item backCached =>
    obtain ⟨rfl, room⟩ := producerKnows
    obtain ⟨after, written, afterHolds, front, back, slot⟩ := ringHolds.write item
    refine ⟨⟨after, .written item ring.backPtr, consumer⟩, queue, ?_, log, afterHolds,
      ⟨back.symm, room, slot⟩, ?_⟩
    · simp only [step, RingThreads.produce, written, bind, Except.bind]
      rfl
    · cases consumer with
      | idle => trivial
      | loaded => exact Eq.trans consumerKnows front.symm
      | checked => exact ⟨consumerKnows.1.trans front.symm, consumerKnows.2⟩
      | taken => exact ⟨consumerKnows.1.trans front.symm, consumerKnows.2⟩
  | written item backCached =>
    obtain ⟨rfl, room, slot⟩ := producerKnows
    obtain ⟨back, advanced, afterHolds⟩ := ringHolds.commit_back room slot profile
    refine ⟨⟨{ ring with backPtr := back }, .idle, consumer⟩, queue ++ [item], ?_,
      log.enqueue item (by omega), afterHolds, trivial, ?_⟩
    · simp only [step, RingThreads.produce, advanced, bind, Except.bind]
      rfl
    · cases consumer with
      | idle => trivial
      | loaded => exact consumerKnows
      | checked => exact ⟨consumerKnows.1, List.append_ne_nil_of_left_ne_nil consumerKnows.2 _⟩
      | taken =>
        refine ⟨consumerKnows.1, ?_⟩
        rw [List.head?_append, consumerKnows.2]
        rfl

/-- A step of the consumer. Only the last one of a successful call changes the queue. -/
theorem consume (holds : Holds capacity past threads queue) (profile : Profile) :
    ∃ target queue', step profile threads .consumer = .ok target ∧
      Holds capacity (⟨threads, .consumer, target⟩ :: past) target queue' := by
  obtain ⟨ring, producer, consumer⟩ := threads
  obtain ⟨log, ringHolds, producerKnows, consumerKnows⟩ := holds
  dsimp only at ringHolds producerKnows consumerKnows
  cases consumer with
  | idle => exact ⟨_, queue, rfl, log, ringHolds, producerKnows, rfl⟩
  | loaded frontCached =>
    have cached : frontCached = ring.frontPtr := consumerKnows
    subst cached
    by_cases empty : ring.backPtr = ring.frontPtr
    · refine ⟨⟨ring, producer, .idle⟩, queue, ?_, log, ringHolds, producerKnows, trivial⟩
      simp only [step, RingThreads.consume, if_pos empty]
    · refine ⟨⟨ring, producer, .checked ring.frontPtr⟩, queue, ?_, log, ringHolds,
        producerKnows, rfl, ?_⟩
      · simp only [step, RingThreads.consume, if_neg empty]
      · exact mt ringHolds.empty_iff.mpr empty
  | checked frontCached =>
    obtain ⟨rfl, some⟩ := consumerKnows
    obtain ⟨item, rest, rfl⟩ := List.exists_cons_of_ne_nil some
    refine ⟨⟨ring, producer, .taken item ring.frontPtr⟩, item :: rest, ?_, log, ringHolds,
      producerKnows, rfl, rfl⟩
    simp only [step, RingThreads.consume, ringHolds.read, bind, Except.bind]
    rfl
  | taken item frontCached =>
    obtain ⟨rfl, first⟩ := consumerKnows
    obtain ⟨rest, rfl⟩ := List.head?_eq_some_iff.mp first
    obtain ⟨front, advanced, afterHolds⟩ := ringHolds.commit_front profile
    have taken : (dequeued (commits past) ++ [item]).length =
        (dequeued (commits past)).length + 1 := List.length_append
    refine ⟨⟨{ ring with frontPtr := front }, producer, .idle⟩, rest, ?_, log.dequeue item, ?_, ?_,
      trivial⟩
    · simp only [step, RingThreads.consume, advanced, bind, Except.bind]
      rfl
    · show RingBuffer.Holds _ (dequeued (commits past) ++ [item]).length _ _
      rwa [taken]
    · show Enqueuing.Knows _ (dequeued (commits past) ++ [item]).length _ _ _ _
      rw [taken]
      cases producer with
      | idle => trivial
      | loaded =>
        obtain ⟨seen, earlier, cached, count, bounded⟩ := producerKnows
        have moved : (dequeued (commits past)).length + 1 + rest.length = seen + observed past := by
          rw [List.length_cons] at count
          omega
        exact ⟨seen, earlier.trans (Nat.le_succ _), cached, moved, bounded⟩
      | checked => exact ⟨producerKnows.1, (Nat.lt_succ_self _).trans producerKnows.2⟩
      | written =>
        exact ⟨producerKnows.1, (Nat.lt_succ_self _).trans producerKnows.2.1, producerKnows.2.2⟩

/-- Any step can be taken, and keeps the invariant. -/
theorem advance (holds : Holds capacity past threads queue) (profile : Profile)
    (action : RingAction τ) :
    ∃ target queue', step profile threads action = .ok target ∧
      Holds capacity (⟨threads, action, target⟩ :: past) target queue' := by
  cases action with
  | producer next => exact holds.produce profile next
  | consumer => exact holds.consume profile

/-- The running `try_enqueue` fails at its next step exactly when it has observed as many
items as can be held. -/
theorem refused (holds : Holds capacity past threads queue) {profile : Profile}
    {item next : τ} {frontCached : Nat} {target : RingThreads τ}
    (loaded : threads.producer = .loaded item frontCached)
    (advanced : step profile threads (.producer next) = .ok target) :
    target.producer = .idle ↔ observed past = capacity - 1 := by
  have knows := holds.producer
  rw [loaded] at knows
  obtain ⟨seen, -, cached, count, bounded⟩ := knows
  have following := holds.ring.next profile (seen + observed past)
  rw [← count, ← holds.ring.back, count] at following
  rw [← @RingBuffer.Holds.full_iff _ seen _ bounded, ← cached]
  simp only [step, RingThreads.produce, loaded, following, bind, Except.bind] at advanced
  split at advanced
  · rename_i full
    cases advanced
    exact iff_of_true rfl full
  · rename_i room
    cases advanced
    exact iff_of_false (fun idle => by cases idle) room

/-- The running `try_dequeue` fails at its next step exactly when no item is held. -/
theorem starved (holds : Holds capacity past threads queue) {profile : Profile}
    {frontCached : Nat} {target : RingThreads τ}
    (loaded : threads.consumer = .loaded frontCached)
    (advanced : step profile threads .consumer = .ok target) :
    target.consumer = .idle ↔ queue = [] := by
  have knows := holds.consumer
  rw [loaded] at knows
  have cached : frontCached = threads.ring.frontPtr := knows
  subst cached
  rw [← holds.ring.empty_iff]
  simp only [step, RingThreads.consume, loaded] at advanced
  split at advanced
  · rename_i empty
    cases advanced
    exact iff_of_true rfl empty
  · rename_i some
    cases advanced
    exact iff_of_false (fun idle => by cases idle) some

/-- What the invariant says in terms of the ring alone. -/
theorem refines (holds : Holds capacity past threads queue) (profile : Profile) :
    Refines profile capacity past threads queue where
  log := holds.log
  intact position item found := by
    have stored := holds.ring.stored position item found
    rwa [holds.ring.size, ← Nat.mod_add_mod, ← holds.ring.front] at stored
  untouched item backCached checked position held := by
    have knows := holds.producer
    rw [checked] at knows
    have free := @Stored.free _ _ (dequeued (commits past)).length _
      (holds.ring.room.trans_eq holds.ring.size.symm) _ held
    rw [holds.ring.size, ← holds.ring.back, ← Nat.mod_add_mod, ← holds.ring.front] at free
    rwa [knows.1]
  refused _ _ _ _ loaded advanced := holds.refused loaded advanced
  starved _ _ loaded advanced := holds.starved loaded advanced
  returns action := by
    obtain ⟨target, -, advanced, -⟩ := holds.advance profile action
    exact ⟨target, advanced⟩
  isFull := holds.ring.isFull_eq profile
  isEmpty := holds.ring.isEmpty_eq
  capacity := holds.ring.capacity_eq profile

end Holds

/-- A call of `try_enqueue` is made of its steps, when the consumer takes none. -/
theorem tryEnqueue_steps {profile : Profile} {threads : RingThreads τ} {item : τ}
    {after : RingBuffer τ} {result : Except τ Unit} (idle : threads.producer = .idle)
    (called : threads.ring.tryEnqueue profile item = .ok (after, result)) :
    ∃ past, Runs.Run (step profile) threads past { threads with ring := after } ∧
      ∀ transition ∈ past, transition.action = .producer item := by
  obtain ⟨ring, producer, consumer⟩ := threads
  cases idle
  have load : Runs.Run (step profile) ⟨ring, .idle, consumer⟩ _
      ⟨ring, .loaded item ring.frontPtr, consumer⟩ := .step (.producer item) .nil rfl
  dsimp only [RingBuffer.tryEnqueue] at called
  cases advanced : ring.next profile ring.backPtr with
  | error fault =>
    rw [advanced] at called
    cases called
  | ok following =>
    rw [advanced] at called
    by_cases full : following = ring.frontPtr
    · simp only [bind, Except.bind, if_pos full] at called
      cases called
      refine ⟨_, load.step (.producer item) ?_, by simp⟩
      simp only [step, produce, advanced, bind, Except.bind, if_pos full]
      rfl
    · simp only [bind, Except.bind, if_neg full] at called
      cases writing : ring.write ring.backPtr item with
      | error fault =>
        rw [writing] at called
        cases called
      | ok written =>
        rw [writing] at called
        cases storing : written.next profile ring.backPtr with
        | error fault =>
          simp only [storing] at called
          cases called
        | ok back =>
          simp only [storing] at called
          cases called
          have check : step profile ⟨ring, .loaded item ring.frontPtr, consumer⟩ (.producer item) =
              .ok ⟨ring, .checked item ring.backPtr, consumer⟩ := by
            simp only [step, produce, advanced, bind, Except.bind, if_neg full]
            rfl
          have write : step profile ⟨ring, .checked item ring.backPtr, consumer⟩ (.producer item) =
              .ok ⟨written, .written item ring.backPtr, consumer⟩ := by
            simp only [step, produce, writing, bind, Except.bind]
            rfl
          have store : step profile ⟨written, .written item ring.backPtr, consumer⟩
              (.producer item) = .ok ⟨{ written with backPtr := back }, .idle, consumer⟩ := by
            simp only [step, produce, storing, bind, Except.bind]
            rfl
          exact ⟨_, ((load.step _ check).step _ write).step _ store, by simp⟩

/-- A call of `try_dequeue` is made of its steps, when the producer takes none. -/
theorem tryDequeue_steps {profile : Profile} {threads : RingThreads τ}
    {after : RingBuffer τ} {result : Option τ} (idle : threads.consumer = .idle)
    (called : threads.ring.tryDequeue profile = .ok (after, result)) :
    ∃ past, Runs.Run (step profile) threads past { threads with ring := after } ∧
      ∀ transition ∈ past, transition.action = .consumer := by
  obtain ⟨ring, producer, consumer⟩ := threads
  cases idle
  have load : Runs.Run (step profile) ⟨ring, producer, .idle⟩ _
      ⟨ring, producer, .loaded ring.frontPtr⟩ := .step .consumer .nil rfl
  dsimp only [RingBuffer.tryDequeue] at called
  by_cases empty : ring.backPtr = ring.frontPtr
  · simp only [if_pos empty] at called
    cases called
    refine ⟨_, load.step .consumer ?_, by simp⟩
    simp only [step, consume, if_pos empty]
  · simp only [if_neg empty] at called
    cases reading : ring.read ring.frontPtr with
    | error fault =>
      rw [reading] at called
      cases called
    | ok item =>
      rw [reading] at called
      cases storing : ring.next profile ring.frontPtr with
      | error fault =>
        simp only [storing, bind, Except.bind] at called
        cases called
      | ok front =>
        simp only [storing, bind, Except.bind] at called
        cases called
        have check : step profile ⟨ring, producer, .loaded ring.frontPtr⟩ .consumer =
            .ok ⟨ring, producer, .checked ring.frontPtr⟩ := by
          simp only [step, consume, if_neg empty]
        have read : step profile ⟨ring, producer, .checked ring.frontPtr⟩ .consumer =
            .ok ⟨ring, producer, .taken item ring.frontPtr⟩ := by
          simp only [step, consume, reading, bind, Except.bind]
          rfl
        have store : step profile ⟨ring, producer, .taken item ring.frontPtr⟩ .consumer =
            .ok ⟨{ ring with frontPtr := front }, producer, .idle⟩ := by
          simp only [step, consume, storing, bind, Except.bind]
          rfl
        exact ⟨_, ((load.step _ check).step _ read).step _ store, by simp⟩

/-- The invariant holds in every state reached. -/
theorem holds_of_run {size align capacity : Nat} {ring : RingBuffer τ}
    (created : RingBuffer.new τ size align capacity = .ok ring)
    (representable : capacity < 2 ^ 64) {profile : Profile} {past : List (Transition τ)}
    {threads : RingThreads τ} (run : Run profile ring past threads) :
    ∃ queue, Holds capacity past threads queue := by
  refine run_invariant (fun past threads => ∃ queue, Holds capacity past threads queue) ?_ ?_ run
    (meets_true past)
  · exact ⟨[], .nil, RingBuffer.holds_new created representable, trivial, trivial⟩
  · rintro past source action target - - ⟨queue, holds⟩ advanced
    obtain ⟨target', queue', advanced', holds'⟩ := holds.advance profile action
    rw [advanced] at advanced'
    cases advanced'
    exact ⟨queue', holds'⟩

/-- In every state that the two threads reach, whatever the order of their steps, the ring
stands for a queue of at most `capacity - 1` items. The items that have been taken, followed
by those held, are the items that have been put in.

Proof: `Holds` relates the two positions and the buffer to a queue, for every point at
which either thread may have been stopped in the middle of its operation. Each step of a
thread moves its own position only after its slot has been written or read, so that the
other thread never sees a slot that is half done. -/
theorem refines_fifo {size align capacity : Nat} {ring : RingBuffer τ}
    (created : RingBuffer.new τ size align capacity = .ok ring)
    (representable : capacity < 2 ^ 64) {profile : Profile} {past : List (Transition τ)}
    {threads : RingThreads τ} (run : Run profile ring past threads) :
    ∃ queue, Refines profile capacity past threads queue ∧
      enqueued (commits past) = dequeued (commits past) ++ queue ∧
      queue.length ≤ capacity - 1 := by
  obtain ⟨queue, holds⟩ := holds_of_run created representable run
  exact ⟨queue, holds.refines profile, holds.log.conserved, holds.log.bounded⟩

/-- Four slots, and calls that overlap: the consumer loads the front index, two items are put
in, and the consumer takes the first of them while the third is put in. -/
theorem refines_fifo_overlapping :
    ∃ (past : List (Transition Nat)) (threads : RingThreads Nat) (queue : List Nat),
      commits past = [.dequeue 7, .enqueue 9, .enqueue 8, .enqueue 7] ∧
      threads.ring.isFull .dev = .ok false ∧
      Refines .dev 4 past threads queue := by
  have run : Run .dev ⟨0, 0, List.replicate 4 none, 3⟩ _ _ :=
    @run_of_execute _ _ _ (step .dev) _ [.consumer, .producer 7, .producer 7, .producer 7,
      .producer 7, .producer 8, .producer 8, .producer 8, .producer 8, .producer 9, .consumer,
      .consumer, .producer 9, .producer 9, .producer 9, .consumer] _ _ _ _ .nil rfl
  obtain ⟨queue, refines, -, -⟩ := @refines_fifo Nat 8 8 4 _ rfl (by decide) _ _ _ run
  exact ⟨_, _, queue, rfl, rfl, refines⟩

end RingThreads

end Capybara
