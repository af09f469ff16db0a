import Capybara.Lib.Slices
import Capybara.Tcp.Established.Acknowledgement

/-!
# The stream of the sender

The unacknowledged and the unsent queue together hold what `send` has accepted
and the peer has not acknowledged. `Sending` says so, with the numbers that the
queues take up and the place of the end marker; everything transmitted is a slice
of the accepted stream at its own number, or the FIN at its end.

The relation is kept while a window probe leaves something of the buffer it takes
its byte from, segments for the peer may hold at least one byte, and the queues hold
less than the sequence space. A probe that takes the only byte of a buffer leaves an
empty one behind, which is then sent as a FIN.
-/

namespace Capybara

open EndMarkers

variable {κ ρ : Type}

namespace Sender

/-- The buffers waiting for an acknowledgement. -/
def unackedBuffers (sender : Sender) : List Buffer := sender.unackedQueue.map UnackedSegment.bytes

/-- The buffers not yet acknowledged, sent or not. -/
def pending (sender : Sender) : List Buffer := sender.unackedBuffers ++ sender.unsentQueue

/-- The bytes outstanding and unsent. -/
def held (sender : Sender) : Nat := sender.pending.flatten.length

/-- Removing no more than a queue in order takes up succeeds, whatever waits
behind it, and removes exactly these numbers. Which bytes that leaves is
`removeAcknowledged_left`. -/
theorem removeAcknowledged_ok [RtoCalculator ρ] (profile : Profile) (now : Instant)
    (queue : List UnackedSegment) (behind : List Buffer) (count : Nat) (rto : ρ)
    (ordered : MarkerLast (queue.map UnackedSegment.bytes ++ behind))
    (within : count ≤ spans (queue.map UnackedSegment.bytes)) :
    ∃ queue' rto', removeAcknowledged profile now queue count rto = .ok (queue', rto') ∧
      spans (queue'.map UnackedSegment.bytes) + count = spans (queue.map UnackedSegment.bytes) ∧
      MarkerLast (queue'.map UnackedSegment.bytes ++ behind) ∧
      ([] ∈ queue'.map UnackedSegment.bytes → [] ∈ queue.map UnackedSegment.bytes) := by
  induction queue generalizing count rto with
  | nil =>
    have none : count = 0 := by simpa using within
    subst none
    exact ⟨[], rto, rfl, rfl, ordered, id⟩
  | cons segment queue inductionHypothesis =>
    by_cases none : count = 0
    · subst none
      exact ⟨segment :: queue, rto, by simp [removeAcknowledged], rfl, ordered, id⟩
    obtain ⟨own, further⟩ := ordered
    simp only [List.map_cons, spans_cons] at within ⊢
    simp only [removeAcknowledged, if_neg none]
    by_cases part : segment.bytes.length > count
    · -- The acknowledgement ends inside this segment.
      have data : segment.bytes ≠ [] := List.ne_nil_of_length_pos (by omega)
      have left : segment.bytes.drop count ≠ [] := by
        rw [ne_eq, List.drop_eq_nil_iff]
        omega
      simp only [if_pos part, Buffer.adjust_of_le (Nat.le_of_lt part), bind, Except.bind]
      refine ⟨_, _, rfl, ?_, ⟨fun marker => absurd marker left, further⟩, ?_⟩
      · simp only [List.map_cons, spans_cons, span_of_ne data, span_of_ne left, List.length_drop]
        omega
      · intro marked
        exact List.mem_cons_of_mem _ ((List.mem_cons.mp marked).resolve_left (Ne.symm left))
    rw [if_neg part]
    by_cases marker : segment.bytes = []
    · -- The end marker is the last entry, so exactly its number is left.
      have last : queue.map UnackedSegment.bytes ++ behind = [] := own marker
      obtain ⟨rest, -⟩ := List.append_eq_nil_iff.mp last
      have one : count = 1 := by
        rw [rest, marker, span_nil, spans_nil] at within
        omega
      have empty : queue = [] := List.map_eq_nil_iff.mp rest
      subst one empty
      rw [if_pos (by rw [marker]; rfl)]
      simp only [beq_self_eq_true, debugAssert_true, bind, Except.bind]
      refine ⟨_, _, rfl, ?_, further, by simp⟩
      rw [marker, span_nil]
      rfl
    · have data := span_of_ne marker
      rw [if_neg (by rw [List.length_eq_zero_iff]; exact marker)]
      obtain ⟨queue', rto', removed, total, ordered, marked⟩ :=
        inductionHypothesis (count - segment.bytes.length) _ further (by omega)
      exact ⟨queue', rto', removed, by omega, ordered, fun left =>
        List.mem_cons_of_mem _ (marked left)⟩

end Sender

/-- A retransmission leaves the queues and `send_next` alone. -/
theorem ControlBlock.retransmitterRound_uses [CongestionControl κ] [RtoCalculator ρ]
    {profile : Profile} {env : Env} {cb cb' : ControlBlock κ ρ}
    (done : cb.retransmitterRound profile env = .ok cb') :
    cb'.sender.sendNext = cb.sender.sendNext ∧ cb'.sender.unsentQueue = cb.sender.unsentQueue ∧
    cb'.sender.unackedBuffers = cb.sender.unackedBuffers := by
  obtain seen | ⟨before, after, sent, like, like'⟩ := retransmitterRound_cases done
  · rw [show cb'.sender = cb.sender from congrArg View.sender seen]
    exact ⟨rfl, rfl, rfl⟩
  rw [← show before.sender = cb.sender from congrArg View.sender like,
    ← show after.sender = cb'.sender from congrArg View.sender like']
  obtain rfl | ⟨segment, rest, queue, seen⟩ := retransmit_cases sent
  · exact ⟨rfl, rfl, rfl⟩
  have marked : after.sender = retransmitted before.sender segment rest := by
    rcases seen with seen | ⟨_, -, seen⟩ <;> exact congrArg View.sender seen
  rw [marked]
  refine ⟨rfl, rfl, ?_⟩
  simp only [Sender.unackedBuffers, retransmitted, queue, List.map_cons]

/-- `acked` numbers of the accepted stream and the FIN behind it have been
acknowledged, and the queues hold the rest. -/
structure Sending (iss : SeqNumber) (stream : Buffer) (acked : Nat) (sender : Sender) (done : Bool) :
    Prop where
  ordered : MarkerLast sender.pending
  data : sender.pending.flatten = stream.drop acked
  marked : [] ∈ sender.pending → done = true
  total : acked + spans sender.pending = stream.length + done.toNat
  unacked : sender.sendUnacked.value = iss.advanced acked
  next : sender.sendNext.value = iss.advanced (acked + spans sender.unackedBuffers)
  unsent : sender.unsentSeqNo.value =
    sender.sendNext.value.advanced sender.unsentQueue.flatten.length
  mss : 0 < sender.mss

namespace Sending

variable {iss : SeqNumber} {stream : Buffer} {acked : Nat} {sender sender' : Sender} {done : Bool}

/-- What is pending is what is unacknowledged and what is unsent. -/
theorem spans_pending (sender : Sender) :
    spans sender.pending = spans sender.unackedBuffers + spans sender.unsentQueue :=
  spans_append _ _

/-- The queues take up at most one number more than they hold bytes. -/
theorem spans_le (sending : Sending iss stream acked sender done) :
    spans sender.pending ≤ sender.held + 1 := by
  by_cases marked : [] ∈ sender.pending
  · exact Nat.le_of_eq (spans_marked sending.ordered marked)
  · rw [spans_data marked]
    exact Nat.le_succ _

/-- `send_next - send_unacked` is what the unacknowledged queue takes up. -/
theorem outstanding_eq (sending : Sending iss stream acked sender done)
    (small : sender.held + 1 < 2 ^ 32) : sender.outstanding = spans sender.unackedBuffers := by
  have most := sending.spans_le
  rw [spans_pending] at most
  rw [Sender.outstanding, sending.unacked, sending.next, ← SeqNumber.advanced_advanced,
    SeqNumber.ahead_advanced_of_lt _ (by omega)]

/-- Before the end of sending there is no end marker. -/
theorem unmarked (sending : Sending iss stream acked sender false) : [] ∉ sender.pending :=
  fun marker => absurd (sending.marked marker) (by simp)

/-- Something unsent means that nothing before it is an end marker. -/
theorem unacked_data (sending : Sending iss stream acked sender done)
    {front : Buffer} {rest : List Buffer} (queue : sender.unsentQueue = front :: rest) :
    [] ∉ sender.unackedBuffers := by
  intro marker
  have last := (markerLast_append.mp sending.ordered).2.2 marker
  rw [queue] at last
  cases last

/-- The number of the first unsent byte is its place in the stream. -/
theorem next_front (sending : Sending iss stream acked sender done)
    {front : Buffer} {rest : List Buffer} (queue : sender.unsentQueue = front :: rest)
    (some : front ≠ []) : ∃ offset, sender.sendNext.value = iss.advanced offset ∧
      Slices.At stream offset front := by
  have split : (sender.unackedBuffers ++ front :: rest).flatten = stream.drop acked := by
    rw [← queue]
    exact sending.data
  refine ⟨_, sending.next, ?_⟩
  rw [spans_data (sending.unacked_data queue)]
  exact .of_flatten split some

/-- The earliest unacknowledged buffer is the stream from `send_unacked` on, or the
FIN at its end. -/
theorem first_pending (sending : Sending iss stream acked sender done)
    {front : Buffer} {rest : List Buffer} (queue : sender.unackedBuffers = front :: rest) :
    (front ≠ [] → Slices.At stream acked front) ∧
    (front = [] → done = true ∧ acked = stream.length) := by
  have split : ([] ++ front :: (rest ++ sender.unsentQueue)).flatten = stream.drop acked := by
    rw [← sending.data, Sender.pending, queue]
    rfl
  refine ⟨fun some => .of_flatten split some, fun marker => ?_⟩
  have ordered := sending.ordered
  have total := sending.total
  have marked : done = true := sending.marked (by simp [Sender.pending, queue, marker])
  unfold Sender.pending at ordered total
  rw [queue, List.cons_append] at ordered total
  rw [ordered.1 marker, marker, marked] at total
  simp only [spans_cons, span_nil, spans_nil, Bool.toNat_true] at total
  exact ⟨marked, by omega⟩

/-- An acknowledgement of outstanding numbers removes exactly these. -/
theorem acknowledge (sending : Sending iss stream acked sender done) {count : Nat}
    (moved : sender'.sendUnacked.value = sender.sendUnacked.value.advanced count)
    (total : spans sender'.unackedBuffers + count = spans sender.unackedBuffers)
    (bytes : sender'.unackedBuffers.flatten = sender.unackedBuffers.flatten.drop count)
    (ordered : MarkerLast (sender'.unackedBuffers ++ sender.unsentQueue))
    (marked : [] ∈ sender'.unackedBuffers → [] ∈ sender.unackedBuffers)
    (next : sender'.sendNext = sender.sendNext) (queue : sender'.unsentQueue = sender.unsentQueue)
    (unsent : sender'.unsentSeqNo = sender.unsentSeqNo) (mss : sender'.mss = sender.mss) :
    Sending iss stream (acked + count) sender' done := by
  have whole := sending.total
  have pending : sender'.pending = sender'.unackedBuffers ++ sender.unsentQueue := by
    rw [Sender.pending, queue]
  refine ⟨by rw [pending]; exact ordered, ?_, ?_, ?_, ?_, ?_, ?_, by rw [mss]; exact sending.mss⟩
  · rw [pending, List.flatten_append, bytes, ← List.drop_drop, ← sending.data, Sender.pending,
      List.flatten_append, List.drop_append]
    congr 1
    -- Nothing unsent is reached: it is not there, or no marker lies before it.
    cases unsentQueue : sender.unsentQueue with
    | nil => simp
    | cons front rest =>
      rw [spans_data (sending.unacked_data unsentQueue)] at total
      rw [Nat.sub_eq_zero_of_le (by omega), List.drop_zero]
  · intro marker
    apply sending.marked
    rw [pending] at marker
    exact List.mem_append.mpr ((List.mem_append.mp marker).imp_left marked)
  · rw [spans_pending] at whole
    rw [pending, spans_append]
    omega
  · rw [moved, sending.unacked, SeqNumber.advanced_advanced]
  · rw [next, sending.next]
    congr 1
    omega
  · rw [unsent, next, queue]
    exact sending.unsent

/-- The number half the space ahead cannot be taken off the empty queue. -/
theorem halfSpace_stuck [RtoCalculator ρ] (profile : Profile) (now : Instant) (rto : ρ)
    {header : TcpHeader} (sending : Sending iss stream acked sender done)
    (small : sender.held + 1 < 2 ^ 32) (corner : sender.HalfSpaceAck header)
    (result : List UnackedSegment × ρ) :
    Sender.removeAcknowledged profile now sender.unackedQueue
      (sender.sendUnacked.value.ahead header.ackNum) rto ≠ .ok result := by
  obtain ⟨nothing, half⟩ := corner
  rw [sending.outstanding_eq small] at nothing
  have empty : sender.unackedQueue = [] := List.map_eq_nil_iff.mp (spans_eq_zero.mp nothing)
  intro removed
  rw [empty, half, Sender.removeAcknowledged, if_neg (by decide)] at removed
  split at removed <;> cases removed

/-- What the ACK section leaves of a sender in this relation, wherever it ends. A
number half the space ahead of an empty queue is not got over. -/
theorem received [RtoCalculator ρ] {profile : Profile} {now : Instant} {cb : ControlBlock κ ρ}
    {header : TcpHeader} (sending : Sending iss stream acked cb.sender done)
    (small : cb.sender.held + 1 < 2 ^ 32)
    (after : cb.SenderAfterAck profile now header sender') :
    Sending iss stream (acked + cb.sender.sendUnacked.value.ahead sender'.sendUnacked.value)
      sender' done ∧
    sender'.sendNext = cb.sender.sendNext ∧ sender'.unsentQueue = cb.sender.unsentQueue := by
  unfold ControlBlock.SenderAfterAck at after
  split at after
  · rename_i new
    obtain ⟨rto, removed, moved, next, queue, unsent, mss, -⟩ := after.sender
    have ahead : sender'.sendUnacked.value = header.ackNum := by rw [moved]; rfl
    obtain within | corner := Sender.acksNew_within new
    · rw [sending.outstanding_eq small] at within
      have bytes := Sender.removeAcknowledged_left (markerLast_append.mp sending.ordered).1 removed
      obtain ⟨queue', rto', removed', total, ordered, marked⟩ :=
        Sender.removeAcknowledged_ok profile now cb.sender.unackedQueue cb.sender.unsentQueue _
          cb.rtoCalculator sending.ordered within
      cases Except.ok.inj (removed.symm.trans removed')
      refine ⟨sending.acknowledge ?_ ?_ ?_ ordered marked next queue unsent mss, next, queue⟩
      · rw [SeqNumber.advanced_ahead]
      · rw [ahead]
        exact total
      · rw [ahead]
        exact bytes
    · exact absurd removed (sending.halfSpace_stuck profile now cb.rtoCalculator small corner _)
  · subst after
    rw [SeqNumber.ahead_self]
    exact ⟨sending, rfl, rfl⟩

/-- Whatever `send` or `close` adds goes to the end of the queues. -/
theorem push (sending : Sending iss stream acked sender false) {buf : Buffer} {done' : Bool}
    (marks : buf = [] ↔ done' = true)
    (pending : sender'.pending = sender.pending ++ [buf])
    (unacked : sender'.sendUnacked = sender.sendUnacked)
    (next : sender'.sendNext.value = iss.advanced (acked + spans sender'.unackedBuffers))
    (unsent : sender'.unsentSeqNo.value =
      sender'.sendNext.value.advanced sender'.unsentQueue.flatten.length)
    (mss : sender'.mss = sender.mss) : Sending iss (stream ++ buf) acked sender' done' := by
  have total := sending.total
  refine ⟨?_, ?_, ?_, ?_, by rw [unacked]; exact sending.unacked, next, unsent,
    by rw [mss]; exact sending.mss⟩
  · rw [pending]
    exact .push sending.unmarked buf
  · rw [pending, List.flatten_append, sending.data, List.drop_append_of_le_length (by
      rw [Bool.toNat_false] at total
      omega)]
    simp
  · intro marker
    rw [pending] at marker
    rcases List.mem_append.mp marker with earlier | own
    · exact absurd earlier sending.unmarked
    · exact marks.mp (List.mem_singleton.mp own).symm
  · rw [pending, spans_append, List.length_append, ← Nat.add_assoc, total, Bool.toNat_false,
      spans_cons, spans_nil]
    cases done' with
    | true => rw [marks.mpr rfl]; rfl
    | false => rw [span_of_ne fun marker => absurd (marks.mp marker) (by simp)]; rfl

/-- Bytes that leave move from the front of the unsent queue to the end of the
unacknowledged one. -/
theorem transmit (sending : Sending iss stream acked sender done) {left right : Buffer}
    {rest : List Buffer} (queue : sender.unsentQueue = (left ++ right) :: rest) (some : left ≠ [])
    (unacked : sender'.sendUnacked = sender.sendUnacked)
    (sent : sender'.unackedBuffers = sender.unackedBuffers ++ [left])
    (kept : sender'.unsentQueue = if right = [] then rest else right :: rest)
    (next : sender'.sendNext.value = sender.sendNext.value.advanced left.length)
    (unsent : sender'.unsentSeqNo = sender.unsentSeqNo) (mss : sender'.mss = sender.mss) :
    Sending iss stream acked sender' done := by
  have ordered := sending.ordered
  have marked := sending.marked
  have data := sending.data
  have total := sending.total
  have number : sender'.sendNext.value = iss.advanced (acked + spans sender'.unackedBuffers) := by
    rw [next, sending.next, SeqNumber.advanced_advanced, sent, spans_append, spans_cons,
      span_of_ne some, spans_nil]
    congr 1
    omega
  have ends : sender'.unsentSeqNo.value =
      sender'.sendNext.value.advanced sender'.unsentQueue.flatten.length := by
    rw [unsent, sending.unsent, next, SeqNumber.advanced_advanced, queue, kept]
    congr 1
    split
    · rename_i whole
      rw [whole]
      simp
    · simp only [List.flatten_cons, List.length_append]
      omega
  unfold Sender.pending at ordered marked data total
  rw [queue] at ordered marked data total
  refine ⟨?_, ?_, ?_, ?_, by rw [unacked]; exact sending.unacked, number, ends,
    by rw [mss]; exact sending.mss⟩
  all_goals
    rw [Sender.pending, sent, kept, List.append_assoc, List.singleton_append]
    split
    · rename_i whole
      rw [whole, List.append_nil] at ordered marked data total
      assumption
  · rename_i left'
    exact ordered.cut some left'
  · rw [← data]
    simp
  · intro marker
    apply marked
    simp only [List.mem_append, List.mem_cons] at marker ⊢
    rcases marker with earlier | own | own | later
    · exact .inl earlier
    · exact absurd own.symm some
    · exact absurd own.symm ‹_›
    · exact .inr (.inr later)
  · rename_i left'
    rw [← total]
    simp only [spans_append, spans_cons, span_append some left']
    omega

end Sending

end Capybara
