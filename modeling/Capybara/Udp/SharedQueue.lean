import Capybara.Lib.Runs
import Capybara.Runtime.Buffer

/-!
# The shared queue

`udp/queue.rs`. A queue counts its messages in a cell of its own beside the channel that holds
them, and makes room by popping on the side of the producer when it is full.

The channel is a list. Its sender may put in one message more than the size of the channel.
Neither end is ever closed, for a queue holds both. The receiver stays borrowed while a `pop` is
suspended, because the borrow is made in the expression that is matched on.
-/

namespace Capybara

open Runs

namespace Udp

variable {τ : Type}

/-- `SharedQueue`: the channel, whether its receiver is borrowed, and the other two fields. -/
structure SharedQueue (τ : Type) where
  messages : List τ
  rxBorrowed : Bool
  length : Nat
  capacity : Nat
  deriving DecidableEq, Repr

namespace SharedQueue

/-- `new`. -/
def new (size : Nat) : SharedQueue τ := ⟨[], false, 0, size⟩

/-- `Sender::try_send`. -/
def trySend (queue : SharedQueue τ) (msg : τ) : Option (SharedQueue τ) :=
  if queue.messages.length ≤ queue.capacity then
    some { queue with messages := queue.messages ++ [msg] }
  else none

/-- The first message is taken out and counted off. -/
def next (profile : Profile) (queue : SharedQueue τ) (msg : τ) (messages : List τ) :
    Checked (Option τ × SharedQueue τ) := do
  let length ← subUsize profile queue.length 1
  return (some msg, { queue with messages, length })

/-- `try_pop`. -/
def tryPop (profile : Profile) (queue : SharedQueue τ) : Checked (Option τ × SharedQueue τ) :=
  if queue.rxBorrowed then .error .alreadyBorrowed
  else match queue.messages with
    | msg :: messages => queue.next profile msg messages
    | [] => .ok (none, queue)

/-- The loop of `push`, of so many turns. A turn takes a message out, or finds none and changes
nothing. -/
def makeRoom (profile : Profile) : Nat → SharedQueue τ → Checked (SharedQueue τ)
  | turns, queue =>
    if queue.length < queue.capacity / 2 then .ok queue
    else match turns with
      | 0 => .error .neverReturns
      | turns + 1 => do
        let (_, queue) ← queue.tryPop profile
        makeRoom profile turns queue

/-- `push`. Once the loop has found no message it would go on for ever. -/
def push (profile : Profile) (queue : SharedQueue τ) (msg : τ) :
    Checked (Except Fail Unit × SharedQueue τ) := do
  let queue ← if queue.length = queue.capacity then
    queue.makeRoom profile (queue.messages.length + 1) else .ok queue
  match queue.trySend msg with
  | some queue => return (.ok (), { queue with length := queue.length + 1 })
  | none =>
    let fail : Fail := { errno := Errno.EIO, cause := "failed to push to shared queue" }
    return (.error fail, queue)

/-- `pop`, polled for the first time or again after it was suspended. Without a message it is
suspended and keeps its borrow. -/
def pop (profile : Profile) (queue : SharedQueue τ) (suspended : Bool) :
    Checked (Option τ × SharedQueue τ) :=
  if queue.rxBorrowed ∧ suspended = false then .error .alreadyBorrowed
  else match queue.messages with
    | msg :: messages => SharedQueue.next profile { queue with rxBorrowed := false } msg messages
    | [] => .ok (none, { queue with rxBorrowed := true })

end SharedQueue

/-- A queue and its consumer, a task that is suspended in `pop` or not. -/
structure Shared (τ : Type) where
  queue : SharedQueue τ
  suspended : Bool
  deriving DecidableEq, Repr

/-- What is done with a queue. -/
inductive QueueAction (τ : Type) where
  | push (msg : τ)
  | tryPop
  /-- The consumer calls `pop`, or is resumed in it. -/
  | consume
  deriving DecidableEq, Repr

/-- What it answers. -/
inductive QueueAnswer (τ : Type) where
  | pushed (result : Except Fail Unit)
  | popped (msg : Option τ)

namespace Shared

/-- Nobody waits. -/
def new (size : Nat) : Shared τ := ⟨.new size, false⟩

/-- One action, with its answer and the queue that it leaves. -/
def serve (profile : Profile) (shared : Shared τ) :
    QueueAction τ → Checked (Shared τ × QueueAnswer τ × SharedQueue τ)
  | .push msg => do
    let (result, queue) ← shared.queue.push profile msg
    return ({ shared with queue }, .pushed result, queue)
  | .tryPop => do
    let (msg, queue) ← shared.queue.tryPop profile
    return ({ shared with queue }, .popped msg, queue)
  | .consume => do
    let (msg, queue) ← shared.queue.pop profile shared.suspended
    return (⟨queue, msg.isNone⟩, .popped msg, queue)

end Shared

/-! ## What the queue is for -/

/-- The messages that wait, whether the consumer does, and the message taken last. -/
structure Waiting (τ : Type) where
  messages : List τ
  consumer : Bool
  taken : Option τ

namespace Waiting

/-- Nothing has happened. -/
def start : Waiting τ := ⟨[], false, none⟩

/-- How many messages are given up when one is pushed. -/
def surplus (capacity length : Nat) : Nat :=
  if length = capacity then capacity + 1 - capacity / 2 else 0

/-- What waits after an action. A push gives up the oldest messages if there are too many, and a
message is taken from the front. -/
def note (capacity : Nat) (waiting : Waiting τ) : QueueAction τ → Waiting τ
  | .push msg =>
    { waiting with
      messages := waiting.messages.drop (surplus capacity waiting.messages.length) ++ [msg] }
  | .tryPop =>
    { waiting with messages := waiting.messages.tail, taken := waiting.messages.head? }
  | .consume => ⟨waiting.messages.tail, waiting.messages.isEmpty, waiting.messages.head?⟩

/-- The answer of an action. -/
def answer (waiting : Waiting τ) : QueueAction τ → QueueAnswer τ
  | .push _ => .pushed (.ok ())
  | _ => .popped waiting.taken

/-- What an action has to answer, and how it has to leave the queue. -/
structure Behaves (capacity : Nat) (waiting : Waiting τ) (action : QueueAction τ)
    (seen : QueueAnswer τ × SharedQueue τ) : Prop where
  answer : seen.1 = waiting.answer action
  messages : seen.2.messages = waiting.messages
  counted : seen.2.length = seen.2.messages.length
  bounded : seen.2.length ≤ capacity

/-- While the consumer waits, nothing is pushed on a full queue and nobody else pops. -/
def Unhindered (capacity : Nat) (waiting : Waiting τ) : QueueAction τ → Prop
  | .push _ => waiting.consumer = true → waiting.messages.length ≠ capacity
  | .tryPop => waiting.consumer = false
  | .consume => True

instance (capacity : Nat) (waiting : Waiting τ) :
    (action : QueueAction τ) → Decidable (waiting.Unhindered capacity action)
  | .push _ => inferInstanceAs (Decidable (waiting.consumer = true →
      waiting.messages.length ≠ capacity))
  | .tryPop => inferInstanceAs (Decidable (waiting.consumer = false))
  | .consume => inferInstanceAs (Decidable True)

end Waiting

/-! ## Making room -/

namespace SharedQueue

/-- A queue whose counter is right. -/
def counted (messages : List τ) (rxBorrowed : Bool) (capacity : Nat) : SharedQueue τ :=
  ⟨messages, rxBorrowed, messages.length, capacity⟩

variable {messages : List τ} {rxBorrowed : Bool} {capacity : Nat}

/-- A queue that counts right has as many messages as it counts. -/
theorem counted_length : (counted messages rxBorrowed capacity).messages.length = messages.length :=
  rfl

/-- A message that is taken out is counted off. -/
theorem next_counted (profile : Profile) (msg : τ) :
    next profile ⟨msg :: messages, rxBorrowed, messages.length + 1, capacity⟩ msg messages =
      .ok (some msg, counted messages rxBorrowed capacity) := by
  rw [next, subUsize, if_pos (Nat.le_add_left 1 _)]
  rfl

/-- `try_pop` takes the first message out, and the queue still counts right. -/
theorem tryPop_counted (profile : Profile) :
    (counted messages false capacity).tryPop profile =
      .ok (messages.head?, counted messages.tail false capacity) := by
  cases messages with
  | nil => rfl
  | cons msg messages => exact next_counted profile msg

/-- `pop` takes the first message out, or keeps the borrow of the receiver while there is none.
-/
theorem pop_counted (profile : Profile) :
    (counted messages rxBorrowed capacity).pop profile rxBorrowed =
      .ok (messages.head?, counted messages.tail messages.isEmpty capacity) := by
  have free : ¬ (rxBorrowed = true ∧ rxBorrowed = false) := by
    rintro ⟨borrowed, idle⟩
    cases borrowed.symm.trans idle
  rw [pop, counted, if_neg free]
  cases messages with
  | nil => rfl
  | cons msg messages => exact next_counted profile msg

/-- A queue that is less than half full needs no room to be made. -/
theorem makeRoom_short (profile : Profile) {queue : SharedQueue τ} (turns : Nat)
    (short : queue.length < queue.capacity / 2) : queue.makeRoom profile turns = .ok queue := by
  cases turns with
  | zero => rw [makeRoom, if_pos short]
  | succ turns => rw [makeRoom, if_pos short]

/-- The loop leaves the newest messages, fewer than half the capacity. -/
theorem makeRoom_counted (profile : Profile) (positive : 0 < capacity / 2) {turns : Nat}
    (enough : messages.length ≤ turns) :
    (counted messages false capacity).makeRoom profile turns =
      .ok (counted (messages.drop (messages.length + 1 - capacity / 2)) false capacity) := by
  induction messages generalizing turns with
  | nil =>
    rw [List.drop_nil]
    exact makeRoom_short profile turns positive
  | cons msg messages inductionHypothesis =>
    by_cases short : messages.length + 1 < capacity / 2
    · have none : messages.length + 1 + 1 - capacity / 2 = 0 := by omega
      rw [List.length_cons, none, List.drop_zero]
      exact makeRoom_short profile turns short
    · obtain _ | turns := turns
      · cases enough
      have one : messages.length + 1 + 1 - capacity / 2 = messages.length + 1 - capacity / 2 + 1 := by
        omega
      rw [makeRoom, if_neg (by exact short)]
      simp only [tryPop_counted, bind, Except.bind, List.tail_cons]
      rw [inductionHypothesis (Nat.le_of_succ_le_succ enough), List.length_cons, one,
        List.drop_succ_cons]

/-- A loop that has to take messages out cannot do so while the consumer waits. -/
theorem makeRoom_borrowed (profile : Profile) {turns : Nat}
    (long : ¬ messages.length < capacity / 2) :
    (counted messages true capacity).makeRoom profile (turns + 1) = .error .alreadyBorrowed := by
  rw [makeRoom, if_neg (by exact long)]
  rfl

/-- The message that is sent is behind the others, and not yet counted. -/
theorem trySend_counted (room : messages.length ≤ capacity) (msg : τ) :
    (counted messages rxBorrowed capacity).trySend msg =
      some ⟨messages ++ [msg], rxBorrowed, messages.length, capacity⟩ :=
  if_pos room

/-- A message that is sent and counted is among those that are counted. -/
theorem counted_concat (msg : τ) :
    (⟨messages ++ [msg], rxBorrowed, messages.length + 1, capacity⟩ : SharedQueue τ) =
      counted (messages ++ [msg]) rxBorrowed capacity := by
  rw [counted, List.length_append, List.length_singleton]

/-- A message that is pushed is kept behind the newest ones for which there is room. -/
theorem push_counted (profile : Profile) (large : 2 ≤ capacity)
    (bounded : messages.length ≤ capacity) (msg : τ)
    (unhindered : rxBorrowed = true → messages.length ≠ capacity) :
    (counted messages rxBorrowed capacity).push profile msg =
      .ok (.ok (), counted
        (messages.drop (Waiting.surplus capacity messages.length) ++ [msg]) rxBorrowed capacity) := by
  by_cases full : messages.length = capacity
  · have free : rxBorrowed = false := Bool.eq_false_iff.mpr fun borrowed => unhindered borrowed full
    have positive : 0 < capacity / 2 := Nat.div_pos large (by decide)
    have room (count : Nat) : (messages.drop count).length ≤ capacity := by
      rw [List.length_drop]
      exact Nat.le_trans (Nat.sub_le _ _) bounded
    subst free
    rw [push, if_pos (by exact full)]
    simp only [counted_length, makeRoom_counted profile positive (Nat.le_succ _), bind, Except.bind,
      trySend_counted (room _)]
    rw [Waiting.surplus, if_pos full, full, ← counted_concat]
    rfl
  · rw [push, if_neg (by exact full)]
    simp only [bind, Except.bind, trySend_counted bounded]
    rw [Waiting.surplus, if_neg full, List.drop_zero, ← counted_concat]
    rfl

/-- A push on a full queue fails while the consumer waits. -/
theorem push_borrowed (profile : Profile) (full : messages.length = capacity) (msg : τ) :
    (counted messages true capacity).push profile msg = .error .alreadyBorrowed := by
  have long : ¬ messages.length < capacity / 2 := by omega
  rw [push, if_pos (by exact full), counted_length, makeRoom_borrowed profile long]
  rfl

end SharedQueue

/-! ## Which sequences of calls succeed -/

namespace Shared

variable {profile : Profile} {capacity : Nat} {waiting : Waiting τ} {action : QueueAction τ}

/-- The queue with the messages that wait. -/
def holding (capacity : Nat) (waiting : Waiting τ) : Shared τ :=
  ⟨.counted waiting.messages waiting.consumer capacity, waiting.consumer⟩

/-- An action that nothing hinders does what the queue is for. -/
theorem serve_holding (large : 2 ≤ capacity) (bounded : waiting.messages.length ≤ capacity)
    (unhindered : waiting.Unhindered capacity action) :
    (holding capacity waiting).serve profile action =
        .ok (holding capacity (waiting.note capacity action),
          (waiting.note capacity action).answer action,
          (holding capacity (waiting.note capacity action)).queue) ∧
      (waiting.note capacity action).messages.length ≤ capacity := by
  have shorter : waiting.messages.tail.length ≤ capacity := by
    rw [List.length_tail]
    exact Nat.le_trans (Nat.sub_le _ _) bounded
  cases action with
  | push msg =>
    constructor
    · rw [serve, holding, SharedQueue.push_counted profile large bounded msg unhindered]
      rfl
    · rw [Waiting.note, List.length_append, List.length_drop, List.length_singleton,
        Waiting.surplus]
      split
      · omega
      · omega
  | tryPop =>
    have idle : waiting.consumer = false := unhindered
    refine ⟨?_, shorter⟩
    simp only [serve, holding, Waiting.note, idle, SharedQueue.tryPop_counted]
    rfl
  | consume =>
    refine ⟨?_, shorter⟩
    have waits : waiting.messages.head?.isNone = waiting.messages.isEmpty := by
      cases waiting.messages <;> rfl
    simp only [serve, holding, Waiting.note, SharedQueue.pop_counted, ← waits]
    rfl

/-- Any other one fails. -/
theorem serve_hindered (hindered : ¬ waiting.Unhindered capacity action) :
    (holding capacity waiting).serve profile action = .error .alreadyBorrowed := by
  cases action with
  | push msg =>
    obtain ⟨waits, full⟩ := Classical.not_imp.mp hindered
    rw [serve, holding, waits, SharedQueue.push_borrowed profile (not_not.mp full)]
    rfl
  | tryPop =>
    have waits : waiting.consumer = true := eq_true_of_ne_false hindered
    rw [serve, holding, waits]
    rfl
  | consume => exact absurd trivial hindered

/-- For every capacity of at least 2 and every sequence of pushes, pops and runs of the consumer:
every call returns, messages come out in the order in which they were pushed, a push on a full
queue gives up the oldest and keeps the new one, and the counter is the number of messages and
at most the capacity, if and only if nothing is pushed on a full queue and nobody else pops while
the consumer is suspended.

Proof: the rule for systems that answer exactly under a condition, with the relation
that the queue holds the messages that wait and is not lent. `enough` serves an
unhindered action; a hindered one panics, as the queue is borrowed twice. -/
theorem serves_iff_unhindered (profile : Profile) (large : 2 ≤ capacity)
    (actions : List (QueueAction τ)) :
    Serves (serve profile) (Waiting.note capacity) (Waiting.Behaves capacity) (new capacity) .start
      actions ↔ Admits (Waiting.note capacity) (Waiting.Unhindered capacity) .start actions := by
  apply @serves_iff _ _ _ _ _ _ _ _ _ (fun _ => True) fun shared waiting =>
    shared = holding capacity waiting ∧ waiting.messages.length ≤ capacity
  case allowing => exact fun _ _ => trivial
  case initially => exact ⟨rfl, Nat.zero_le _⟩
  case enough =>
    rintro _ waiting action - ⟨rfl, bounded⟩ unhindered
    obtain ⟨served, bounded'⟩ := serve_holding large bounded unhindered
    exact ⟨_, _, served, ⟨rfl, rfl, rfl, bounded'⟩, rfl, bounded'⟩
  case needed =>
    rintro _ waiting action shared' seen - ⟨rfl, -⟩ served -
    by_contra hindered
    rw [serve_hindered hindered] at served
    cases served

/-- The consumer waits, is resumed behind two pushes, and three more are made. -/
theorem serves_resumed :
    Serves (serve .dev) (Waiting.note 2) (Waiting.Behaves 2) (new 2) .start
      [.consume, .push 1, .push 2, .consume, .push 3, .push 4, .push 5] :=
  (serves_iff_unhindered .dev (by decide) _).mpr (by decide)

/-- Three messages are pushed while the consumer waits. -/
theorem burst_not_served :
    ¬ ∀ (capacity : Nat) (actions : List (QueueAction Nat)), 2 ≤ capacity →
      Serves (serve .dev) (Waiting.note capacity) (Waiting.Behaves capacity) (new capacity) .start
        actions := by
  intro claimed
  obtain ⟨_, _, waits, -, _, _, first, -, _, _, second, -, _, _, third, -⟩ :=
    claimed 2 [.consume, .push 1, .push 2, .push 3] (by decide)
  cases waits
  cases first
  cases second
  cases third

end Shared

end Udp

end Capybara
