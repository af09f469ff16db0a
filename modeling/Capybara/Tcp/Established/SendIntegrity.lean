import Capybara.Tcp.Established.SendStream

/-!
# The sending side along runs

What `run_transmits` means for the peer and for the retransmission queue: every
data segment is a slice of the accepted stream, the FIN appears only after `close`
and right behind the stream, and `send_next - send_unacked` is what the
unacknowledged queue takes up, so that an acceptable acknowledgement can always be
taken off it.

A window probe from a buffer of one byte leaves an empty buffer in the unsent
queue. Once something is sent after it and the window opens, the coroutine takes
that buffer for the end of sending.
-/

namespace Capybara

open EndMarkers

variable {κ ρ : Type}

/-- Whether an action is a call of `close`. -/
def Action.closes : Action → Bool
  | .close _ => true
  | _ => false

/-- Whether `close` has been called. -/
def Connection.closed (past : List (Connection.Transition κ ρ)) : Bool :=
  past.any fun transition => transition.action.closes

/-- A peer with a closed window, and own bytes numbered from 50 on. -/
def NewConnection.probing : NewConnection :=
  { NewConnection.sample 1000 0 536 with senderSeqNo := SeqNumber.ofU32 50 }

variable [CongestionControl κ] [RtoCalculator ρ] {profile : Profile}

namespace Connection

/-- The connection to that peer. -/
def probing : Connection NoCongestionControl IntegerRto := Connection.new NewConnection.probing

/-- Two bytes are sent, the first of them as a window probe; the peer acknowledges it
and opens its window, the second byte and the FIN leave, and the second byte leaves
once more. -/
def probedActions : List Action :=
  [.send (Env.sample 0) [1, 2], .senderRound (Env.sample 0) (.resolved 2#48),
    .segment 100 51 [] false, .senderRound (Env.sample 1) (.resolved 2#48),
    .senderRound (Env.sample 1) (.resolved 2#48), .close (Env.sample 2),
    .retransmitterRound (Env.sample 10000000000)]

/-- Two bytes are written to a closed window, the first one goes out as a probe, the application
closes and the window opens: one byte and the FIN are outstanding, and nothing is left unsent.
-/
theorem execute_probed :
    ∃ past state, execute .dev probing probedActions = .ok (past, state) ∧
      Runs.Meets StreamKept past ∧ allAccepted .dev past = [1, 2] ∧ acked past = 1 ∧
      closed past = true ∧ state.cb.sender.unackedBuffers = [[2], []] ∧
      state.cb.sender.unsentQueue = [] := by
  refine ⟨_, _, rfl, by decide, by decide, by decide, by decide, by decide, by decide⟩

/-- Only `close` ends sending. -/
theorem step_closed {source target : Connection κ ρ} {action : Action}
    (advanced : source.step profile action = .ok target) :
    target.cb.userIsDoneSending = (action.closes || source.cb.userIsDoneSending) := by
  cases action with
  | receive env header data =>
    obtain ⟨cb, received, advanced⟩ := bind_ok.mp advanced
    cases advanced
    exact (ControlBlock.receive_acks received).2.1
  | pollRecv waker =>
    cases advanced
    simp only [ControlBlock.pollRecv]
    split <;> rfl
  | send env buf =>
    obtain ⟨⟨cb, result⟩, sent, advanced⟩ := bind_ok.mp advanced
    cases advanced
    obtain ⟨-, -, seen⟩ | ⟨-, -, -, seen⟩ | ⟨-, -, -, _, -, seen⟩ := ControlBlock.send_cases sent
    all_goals exact congrArg View.userIsDoneSending seen
  | close env =>
    obtain ⟨cb, closed, advanced⟩ := bind_ok.mp advanced
    cases advanced
    obtain ⟨done, rfl⟩ | ⟨-, -, seen⟩ | ⟨-, -, _, -, seen⟩ := ControlBlock.close_cases closed
    · exact done
    all_goals exact congrArg View.userIsDoneSending seen
  | senderRound env reply =>
    obtain ⟨⟨task, cb⟩, done, advanced⟩ := bind_ok.mp advanced
    cases advanced
    obtain ⟨seen, -⟩ | ⟨_, _, before, -, sent, like, -⟩ | ⟨_, _, _, _, _, before, sent, like, -⟩ |
      ⟨_, _, _, _, _, _, _, _, segment, -, -, -, seen⟩ := SenderTask.round_cases done
    · exact congrArg View.userIsDoneSending seen
    · obtain ⟨_, _, _, _, _, -, -, -, seen⟩ := SenderTask.sendProbe_ok sent
      exact (congrArg View.userIsDoneSending seen).trans (congrArg View.userIsDoneSending like)
    · obtain ⟨_, _, _, _, _, -, -, -, -, -, seen⟩ := SenderTask.sendSegment_ok sent
      exact (congrArg View.userIsDoneSending seen).trans (congrArg View.userIsDoneSending like)
    · exact congrArg View.userIsDoneSending seen
  | retransmitterRound env =>
    obtain ⟨cb, done, advanced⟩ := bind_ok.mp advanced
    cases advanced
    obtain ⟨-, rfl⟩ | ⟨-, done⟩ := backgroundRound_cases done
    · rfl
    obtain seen | ⟨before, after, sent, like, like'⟩ := ControlBlock.retransmitterRound_cases done
    · exact congrArg View.userIsDoneSending seen
    have kept : after.userIsDoneSending = before.userIsDoneSending := by
      obtain rfl | ⟨_, _, -, seen | ⟨_, -, seen⟩⟩ := ControlBlock.retransmit_cases sent
      · rfl
      all_goals exact congrArg View.userIsDoneSending seen
    exact (congrArg View.userIsDoneSending like').symm.trans
      (kept.trans (congrArg View.userIsDoneSending like))
  | acknowledgerRound env =>
    obtain ⟨cb, done, advanced⟩ := bind_ok.mp advanced
    cases advanced
    obtain ⟨-, rfl⟩ | ⟨-, done⟩ := backgroundRound_cases done
    · rfl
    obtain rfl | sent := ControlBlock.acknowledgerRound_cases done
    · rfl
    · exact (ControlBlock.sendAck_onlyAcks sent).done

/-- The flag `user_is_done_sending` records whether `close` has been called. -/
theorem run_closed {args : NewConnection} {past : List (Transition κ ρ)} {state : Connection κ ρ}
    (run : Run profile (Connection.new args) past state) :
    state.cb.userIsDoneSending = closed past := by
  induction run with
  | nil => rfl
  | step action earlier advanced inductionHypothesis =>
    rw [step_closed advanced, inductionHypothesis]
    rfl

/-! ## The stream -/

/-- Sender stream integrity. Along every run that keeps the stream, every data
segment that was ever transmitted is the slice of the accepted stream at its own
number, and the two queues hold exactly the accepted bytes from `send_unacked`
on.

Proof: `Transmits` is kept by every round and call that keeps the stream: it holds the
positions of the queues in the accepted stream and, for each transmitted segment, where
its bytes come from. The three kinds of segments are then read off. -/
theorem sender_stream (profile : Profile) (args : NewConnection) (mss : 1 ≤ args.senderMss)
    {past : List (Transition κ ρ)} {state : Connection κ ρ}
    (run : Run profile (Connection.new args) past state) (kept : Runs.Meets StreamKept past) :
    (∀ segment ∈ state.cb.transmitted, ∀ bytes, segment.data = some bytes → bytes ≠ [] →
      ∃ offset, segment.tcpHdr.seqNum = args.senderSeqNo.advanced offset ∧
        Slices.At (allAccepted profile past) offset bytes) ∧
    state.cb.sender.sendUnacked.value = args.senderSeqNo.advanced (acked past) ∧
    state.cb.sender.pending.flatten = (allAccepted profile past).drop (acked past) := by
  obtain ⟨sending, -, emitted⟩ := run_transmits mss run kept
  refine ⟨fun segment member bytes body occupied => ?_, sending.unacked, sending.data⟩
  cases emitted segment member with
  | ack plain quiet => cases plain.symm.trans body
  | data offset bytes' carries occupied' slice =>
    cases carries.body.symm.trans body
    exact ⟨offset, carries.seqNum, slice⟩
  | fin closed carries =>
    cases carries.body.symm.trans body
    exact absurd rfl occupied

/-- The probed connection holds the second byte when the first is acknowledged. -/
theorem sender_stream_probed :
    ∃ past state, Run .dev probing past state ∧ Runs.Meets StreamKept past ∧
      allAccepted .dev past = [1, 2] ∧ acked past = 1 ∧ state.cb.sender.pending.flatten = [2] := by
  obtain ⟨past, state, executed, kept, stream, total, -, -, -⟩ := execute_probed
  have run := run_of_execute executed
  have integrity := sender_stream .dev NewConnection.probing (by decide) run kept
  refine ⟨past, state, run, kept, stream, total, ?_⟩
  rw [integrity.2.2, stream, total]
  rfl

/-! ## The FIN -/

/-- No spurious FIN. Along every run that keeps the stream, before `close` there is
no empty buffer in either queue and no FIN has left; afterwards an empty buffer has
nothing behind it and none before it, and every FIN carries the number directly
after the accepted stream.

Proof: the invariant of `sender_stream` also says that an empty buffer is the last of
both queues and exists only after `close`. Which segments carry a FIN is read off the
kinds of transmitted segments. -/
theorem no_spurious_fin (profile : Profile) (args : NewConnection) (mss : 1 ≤ args.senderMss)
    {past : List (Transition κ ρ)} {state : Connection κ ρ}
    (run : Run profile (Connection.new args) past state) (kept : Runs.Meets StreamKept past) :
    (closed past = false →
      [] ∉ state.cb.sender.unackedBuffers ∧ [] ∉ state.cb.sender.unsentQueue ∧
      ∀ segment ∈ state.cb.transmitted, segment.tcpHdr.fin = false) ∧
    (∀ before after, state.cb.sender.pending = before ++ [] :: after → [] ∉ before ∧ after = []) ∧
    ∀ segment ∈ state.cb.transmitted, segment.tcpHdr.fin = true →
      segment.tcpHdr.seqNum = args.senderSeqNo.advanced (allAccepted profile past).length := by
  obtain ⟨sending, -, emitted⟩ := run_transmits mss run kept
  have done : state.cb.view.userIsDoneSending = closed past := run_closed run
  refine ⟨fun active => ?_, fun before after split => ?_, fun segment member fin => ?_⟩
  · rw [done, active] at sending emitted
    have unmarked := sending.unmarked
    rw [Sender.pending, List.mem_append, not_or] at unmarked
    refine ⟨unmarked.1, unmarked.2, fun segment member => ?_⟩
    cases emitted segment member with
    | ack plain quiet => exact quiet
    | data offset bytes carries occupied slice => exact carries.fin
    | fin closed carries => cases closed
  · have ordered : MarkerLast state.cb.sender.pending := sending.ordered
    rw [split] at ordered
    obtain ⟨-, last, further⟩ := markerLast_append.mp ordered
    refine ⟨fun earlier => ?_, last.1 rfl⟩
    cases further earlier
  · cases emitted segment member with
    | ack plain quiet => cases quiet.symm.trans fin
    | data offset bytes carries occupied slice => cases carries.fin.symm.trans fin
    | fin closed carries => exact carries.seqNum

/-- The probed connection has sent its FIN with the number after its two bytes. -/
theorem no_spurious_fin_probed :
    ∃ past state, Run .dev probing past state ∧ Runs.Meets StreamKept past ∧ closed past = true ∧
      state.cb.sender.pending = [[2], []] ∧
      ∀ segment ∈ state.cb.transmitted, segment.tcpHdr.fin = true →
        segment.tcpHdr.seqNum = SeqNumber.ofU32 52 := by
  obtain ⟨past, state, executed, kept, stream, -, closes, unacked, unsent⟩ := execute_probed
  have run := run_of_execute executed
  have integrity := no_spurious_fin .dev NewConnection.probing (by decide) run kept
  refine ⟨past, state, run, kept, closes, ?_, fun segment member fin => ?_⟩
  · rw [Sender.pending, unacked, unsent]
    rfl
  · rw [integrity.2.2 segment member fin, stream]
    rfl

/-- A window probe takes the only byte of a buffer and leaves an empty one. When more
is sent and the window opens, the empty buffer is taken for the end of sending: in
one profile a FIN leaves though `close` was never called, in the other an assertion
fails. -/
theorem probe_leaves_fin :
    (∃ past state, execute .dev probing [.send (Env.sample 0) [1],
        .senderRound (Env.sample 0) (.resolved 2#48)] = .ok (past, state) ∧
      closed past = false ∧ [] ∈ state.cb.sender.unsentQueue) ∧
    (∃ past state, execute .release probing [.send (Env.sample 0) [1],
        .senderRound (Env.sample 0) (.resolved 2#48), .send (Env.sample 0) [2],
        .segment 100 51 [] false, .senderRound (Env.sample 1) (.resolved 2#48),
        .senderRound (Env.sample 1) (.resolved 2#48)] = .ok (past, state) ∧
      closed past = false ∧ ∃ segment ∈ state.cb.transmitted, segment.tcpHdr.fin = true) ∧
    execute .dev probing [.send (Env.sample 0) [1],
        .senderRound (Env.sample 0) (.resolved 2#48), .send (Env.sample 0) [2],
        .segment 100 51 [] false, .senderRound (Env.sample 1) (.resolved 2#48),
        .senderRound (Env.sample 1) (.resolved 2#48)] = .error .finBeforeClose :=
  ⟨⟨_, _, rfl, by decide, by decide⟩, ⟨_, _, rfl, by decide, by decide⟩, rfl⟩

/-! ## The retransmission queue -/

/-- Accounting of the retransmission queue. Along every run that keeps the stream,
`send_next - send_unacked` is what the unacknowledged queue takes up, and removing
any number of acknowledged bytes up to that returns, whichever profile is used, and
leaves the same equation for what is left.

Proof: the invariant of `sender_stream` gives the equation and the place of the marker.
`removeAcknowledged_ok` is the loop, by induction on the queue: it takes whole segments,
cuts the last one, and takes the marker only behind all bytes. -/
theorem unacked_accounted (profile : Profile) (args : NewConnection) (mss : 1 ≤ args.senderMss)
    {past : List (Transition κ ρ)} {state : Connection κ ρ}
    (run : Run profile (Connection.new args) past state) (kept : Runs.Meets StreamKept past)
    (small : state.cb.sender.held + 1 < 2 ^ 32) :
    let sender := state.cb.sender
    sender.sendUnacked.value.ahead sender.sendNext.value = spans sender.unackedBuffers ∧
    MarkerLast sender.unackedBuffers ∧
    ∀ (profile' : Profile) (now : Instant) (rto : ρ) (count : Nat),
      count ≤ sender.sendUnacked.value.ahead sender.sendNext.value →
      ∃ queue rto', Sender.removeAcknowledged profile' now sender.unackedQueue count rto =
          .ok (queue, rto') ∧
        (sender.sendUnacked.value.advanced count).ahead sender.sendNext.value =
          spans (queue.map UnackedSegment.bytes) ∧
        MarkerLast (queue.map UnackedSegment.bytes) := by
  obtain ⟨sending, -, -⟩ := run_transmits mss run kept
  have outstanding : state.cb.sender.sendUnacked.value.ahead state.cb.sender.sendNext.value =
      spans (state.cb.sender.unackedQueue.map UnackedSegment.bytes) := sending.outstanding_eq small
  refine ⟨outstanding, (markerLast_append.mp sending.ordered).1, ?_⟩
  intro profile' now rto count within
  obtain ⟨queue, rto', removed, total, ordered, -⟩ :=
    Sender.removeAcknowledged_ok profile' now state.cb.sender.unackedQueue
      state.cb.sender.unsentQueue count rto sending.ordered (outstanding ▸ within)
  refine ⟨queue, rto', removed, ?_, (markerLast_append.mp ordered).1⟩
  rw [SeqNumber.ahead_from_advanced within, outstanding]
  omega

/-- The probed connection has two numbers outstanding, a byte and the FIN. -/
theorem unacked_accounted_probed :
    ∃ past state, Run .dev probing past state ∧ Runs.Meets StreamKept past ∧
      state.cb.sender.unackedBuffers = [[2], []] ∧
      state.cb.sender.sendUnacked.value.ahead state.cb.sender.sendNext.value = 2 := by
  obtain ⟨past, state, executed, kept, -, -, -, unacked, unsent⟩ := execute_probed
  have run := run_of_execute executed
  have small : state.cb.sender.held + 1 < 2 ^ 32 := by
    rw [Sender.held, Sender.pending, unacked, unsent]
    decide
  have accounted := unacked_accounted .dev NewConnection.probing (by decide) run kept small
  refine ⟨past, state, run, kept, unacked, ?_⟩
  rw [accounted.1, unacked]
  rfl

end Connection

end Capybara
