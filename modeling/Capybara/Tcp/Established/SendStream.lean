import Capybara.Tcp.Established.Sending

/-!
# What leaves the sender

A transmitted segment is a pure acknowledgement, a slice of the accepted stream at
its own number, or the FIN right behind that stream. This holds along every run in
which no window probe takes the only byte of a buffer, the peer's segments hold at
least one byte, and the queues hold less than the sequence space.

The coroutine reads `send_next` and the windows before it waits for a link address
and uses them afterwards. `SenderTask.Ready` says that they are still true then:
while something is unsent, no other writer moves `send_next`.
-/

namespace Capybara

open EndMarkers

variable {κ ρ : Type}

/-- What a transmitted segment may be, with `stream` accepted so far and `done` if
the application has closed. -/
inductive Emitted (iss : SeqNumber) (stream : Buffer) (done : Bool) (segment : TcpSegment) : Prop where
  | ack (plain : segment.data = none) (quiet : segment.tcpHdr.fin = false)
  | data (offset : Nat) (bytes : Buffer)
      (carries : Carries segment (iss.advanced offset) bytes false) (occupied : bytes ≠ [])
      (slice : Slices.At stream offset bytes)
  | fin (closed : done = true) (carries : Carries segment (iss.advanced stream.length) [] true)

/-- Until the application closes, the stream may grow. -/
theorem Emitted.extend {iss : SeqNumber} {stream : Buffer} {segment : TcpSegment}
    (emitted : Emitted iss stream false segment) (more : Buffer) (done : Bool) :
    Emitted iss (stream ++ more) done segment := by
  cases emitted with
  | ack plain quiet => exact .ack plain quiet
  | data offset bytes carries occupied slice =>
    exact .data offset bytes carries occupied (slice.extend more)
  | fin closed carries => cases closed

/-- What the coroutine holds at its suspension point is true of the sender. -/
inductive SenderTask.Ready (iss : SeqNumber) (stream : Buffer) (sender : Sender) :
    SenderTask → Prop where
  | rests {task : SenderTask} (nothing : task.holdsNothing = true) : Ready iss stream sender task
  | probe {front : Buffer} {rest : List Buffer} (queue : sender.unsentQueue = front :: rest)
      (occupied : front ≠ []) : Ready iss stream sender (.queryProbe sender.sendNext.value)
  | persist {offset : Nat} {buf : Buffer} {remoteLinkAddr : MacAddress} {changes : Nat}
      {timeout : Duration} {deadline : Instant} (slice : Slices.At stream offset buf)
      (occupied : buf ≠ []) : Ready iss stream sender
        (.persist (iss.advanced offset) buf remoteLinkAddr changes timeout deadline)
  | send {front : Buffer} {rest : List Buffer} {winSz sentData effectiveCwnd : Nat}
      (queue : sender.unsentQueue = front :: rest) (occupied : front ≠ [])
      (windowRoom : sentData < winSz) (cwndRoom : sentData < effectiveCwnd) :
      Ready iss stream sender (.querySend sender.sendNext.value winSz sentData effectiveCwnd)

/-- While something is unsent, `send_next` stays and the queue grows at its end only. -/
theorem SenderTask.Ready.keep {iss : SeqNumber} {stream : Buffer} {sender sender' : Sender}
    {task : SenderTask} (ready : task.Ready iss stream sender) (more : Buffer) {later : List Buffer}
    (queue : sender'.unsentQueue = sender.unsentQueue ++ later)
    (next : sender.unsentQueue ≠ [] → sender'.sendNext.value = sender.sendNext.value) :
    task.Ready iss (stream ++ more) sender' := by
  cases ready with
  | rests nothing => exact .rests nothing
  | probe before occupied =>
    rw [← next (by rw [before]; simp)]
    exact .probe (by rw [queue, before, List.cons_append]) occupied
  | persist slice occupied => exact .persist (slice.extend more) occupied
  | send before occupied windowRoom cwndRoom =>
    rw [← next (by rw [before]; simp)]
    exact .send (by rw [queue, before, List.cons_append]) occupied windowRoom cwndRoom

namespace Sending

variable {iss : SeqNumber} {stream : Buffer} {acked : Nat} {sender : Sender} {done : Bool}

/-- Numbers left to send are bytes at the front of the unsent queue. -/
theorem front_data (sending : Sending iss stream acked sender done)
    (unsent : sender.sendNext.value ≠ sender.unsentSeqNo.value) :
    ∃ front rest, sender.unsentQueue = front :: rest ∧ front ≠ [] := by
  have ends := sending.unsent
  have ordered := (markerLast_append.mp sending.ordered).2.1
  cases queue : sender.unsentQueue with
  | nil =>
    rw [queue] at ends
    exact absurd (ends.trans (SeqNumber.advanced_zero _)).symm unsent
  | cons front rest =>
    refine ⟨front, rest, rfl, fun marker => ?_⟩
    rw [queue] at ordered ends
    rw [marker, ordered.1 marker] at ends
    exact absurd (ends.trans (SeqNumber.advanced_zero _)).symm unsent

/-- What the coroutine reads from such a sender it may act upon. -/
theorem ready [CongestionControl κ] [RtoCalculator ρ] {profile : Profile} {cb : ControlBlock κ ρ}
    {task : SenderTask} (sending : Sending iss stream acked cb.sender done)
    (small : cb.sender.held + 1 < 2 ^ 32) (captured : SenderTask.Captured profile cb task) :
    task.Ready iss stream cb.sender := by
  cases captured with
  | probe unsent closed =>
    obtain ⟨front, rest, queue, occupied⟩ := sending.front_data unsent
    exact .probe queue occupied
  | @send front rest needed effectiveCwnd unsent queue sum windowRoom cwndRoom =>
    obtain ⟨front', rest', queue', occupied⟩ := sending.front_data unsent
    cases queue.symm.trans queue'
    -- Everything outstanding and the front buffer are bytes held, so the sum does not wrap.
    have outstanding := sending.outstanding_eq small
    rw [spans_data (sending.unacked_data queue), Sender.outstanding] at outstanding
    have most : cb.sender.unackedBuffers.flatten.length + front.length ≤ cb.sender.held := by
      rw [Sender.held, Sender.pending, queue]
      simp only [List.flatten_append, List.flatten_cons, List.length_append]
      omega
    rw [SeqNumber.toU32_sub] at sum
    rw [outstanding, asU32_of_lt (by omega), addU32_of_lt profile (by omega)] at sum
    cases sum
    refine .send queue occupied ?_ cwndRoom
    rw [SeqNumber.toU32_sub, outstanding]
    omega

end Sending

/-- The sender holds the rest of the stream, the coroutine is ready, and everything
transmitted is part of the stream or its end. -/
structure Transmits (iss : SeqNumber) (stream : Buffer) (acked : Nat) (view : View)
    (task : SenderTask) : Prop where
  sending : Sending iss stream acked view.sender view.userIsDoneSending
  task : task.Ready iss stream view.sender
  emitted : ∀ segment ∈ view.transmitted, Emitted iss stream view.userIsDoneSending segment

namespace Transmits

variable {iss : SeqNumber} {stream : Buffer} {acked : Nat} {view view' : View}
  {task task' : SenderTask} {segment : TcpSegment} {buf : Buffer}

/-- One more segment leaves, and the sender is in the relation again. -/
theorem emit (holds : Transmits iss stream acked view task)
    (sending : Sending iss stream acked view'.sender view.userIsDoneSending)
    (done : view'.userIsDoneSending = view.userIsDoneSending)
    (sent : view'.transmitted = view.transmitted ++ [segment])
    (emitted : Emitted iss stream view.userIsDoneSending segment)
    (ready : task'.Ready iss stream view'.sender) : Transmits iss stream acked view' task' := by
  refine ⟨by rw [done]; exact sending, ready, fun other member => ?_⟩
  rw [done]
  rw [sent] at member
  rcases List.mem_append.mp member with earlier | own
  · exact holds.emitted other earlier
  · rw [List.mem_singleton.mp own]
    exact emitted

/-- Pure acknowledgements leave. -/
theorem acknowledges (holds : Transmits iss stream acked view task) {acks : List TcpSegment}
    (pure : PureAcks acks) :
    ∀ segment ∈ view.transmitted ++ acks, Emitted iss stream view.userIsDoneSending segment := by
  intro segment member
  rcases List.mem_append.mp member with earlier | own
  · exact holds.emitted segment earlier
  · obtain ⟨plain, quiet⟩ := pure segment own
    exact .ack plain quiet

/-- A buffer or the end marker is queued. -/
theorem queued (holds : Transmits iss stream acked view task)
    (active : view.userIsDoneSending = false) (marks : buf = [] ↔ view'.userIsDoneSending = true)
    (sender : view'.sender = ControlBlock.queued view.sender buf)
    (sent : view'.transmitted = view.transmitted) :
    Transmits iss (stream ++ buf) acked view' task := by
  have sending := holds.sending
  rw [active] at sending
  refine ⟨sending.push marks ?_ ?_ ?_ ?_ ?_, ?_, fun segment member => ?_⟩
  · rw [sender, Sender.pending, Sender.pending, ControlBlock.queued, List.append_assoc]
    rfl
  · rw [sender]
    rfl
  · rw [sender]
    exact sending.next
  · rw [sender]
    change view.sender.unsentSeqNo.value.advanced buf.length = view.sender.sendNext.value.advanced
      (view.sender.unsentQueue ++ [buf]).flatten.length
    rw [sending.unsent, SeqNumber.advanced_advanced]
    simp
  · rw [sender]
    rfl
  · exact holds.task.keep buf (by rw [sender]; rfl) (fun _ => by rw [sender]; rfl)
  · rw [sent] at member
    have emitted := holds.emitted segment member
    rw [active] at emitted
    exact emitted.extend buf _

/-- A buffer or the end marker is transmitted at once. -/
theorem immediate (holds : Transmits iss stream acked view task) {now : Instant}
    (active : view.userIsDoneSending = false) (marks : buf = [] ↔ view'.userIsDoneSending = true)
    (empty : view.sender.unsentQueue = [])
    (sender : view'.sender = { view.sender.after buf now (sequenceNumbers buf) with
      unsentSeqNo := view.sender.unsentSeqNo.set
        (view.sender.unsentSeqNo.value.advanced (sequenceNumbers buf)) })
    (sent : view'.transmitted = view.transmitted ++ [segment])
    (carries : Carries segment view.sender.sendNext.value buf (buf.length == 0)) :
    Transmits iss (stream ++ buf) acked view' task := by
  have sending := holds.sending
  rw [active] at sending
  have whole : view.sender.pending = view.sender.unackedBuffers := by
    rw [Sender.pending, empty, List.append_nil]
  have buffers : view'.sender.unackedBuffers = view.sender.unackedBuffers ++ [buf] := by
    rw [sender]
    simp [Sender.unackedBuffers, Sender.after]
  have queue : view'.sender.unsentQueue = [] := by rw [sender]; exact empty
  -- Nothing is unsent, so `send_next` is the end of the stream.
  have next : view.sender.sendNext.value = iss.advanced stream.length := by
    have total := sending.total
    rw [whole, Bool.toNat_false] at total
    rw [sending.next, total]
    rfl
  refine ⟨sending.push marks ?_ ?_ ?_ ?_ ?_, ?_, fun other member => ?_⟩
  · rw [Sender.pending, buffers, queue, List.append_nil, whole]
  · rw [sender]
    rfl
  · rw [buffers, sender]
    change view.sender.sendNext.value.advanced (span buf) = _
    rw [sending.next, SeqNumber.advanced_advanced, spans_append, spans_cons, spans_nil]
    congr 1
    omega
  · have ends := sending.unsent
    rw [empty] at ends
    rw [queue, sender]
    change view.sender.unsentSeqNo.value.advanced (span buf) =
      (view.sender.sendNext.value.advanced (span buf)).advanced 0
    rw [ends, List.flatten_nil, List.length_nil, SeqNumber.advanced_zero, SeqNumber.advanced_zero]
  · rw [sender]
    rfl
  · exact holds.task.keep buf (by rw [queue, empty]; rfl) (fun waiting => absurd empty waiting)
  · rw [sent] at member
    rcases List.mem_append.mp member with earlier | own
    · have emitted := holds.emitted other earlier
      rw [active] at emitted
      exact emitted.extend buf _
    · rw [List.mem_singleton.mp own]
      rw [next] at carries
      by_cases marker : buf = []
      · subst marker
        refine .fin (marks.mp rfl) ?_
        rw [List.append_nil]
        exact carries
      · refine .data stream.length buf ?_ marker ⟨by simp, by simp⟩
        rw [show (buf.length == 0) = false by simpa using marker] at carries
        exact carries

/-- Bytes from the front of the unsent queue are transmitted. -/
theorem departs (holds : Transmits iss stream acked view task) (left right : Buffer)
    (now : Instant) {rest : List Buffer}
    (queue : view.sender.unsentQueue = (left ++ right) :: rest) (occupied : left ≠ [])
    (sender : view'.sender = { view.sender.after left now left.length with
      unsentQueue := if right = [] then rest else right :: rest })
    (done : view'.userIsDoneSending = view.userIsDoneSending)
    (sent : view'.transmitted = view.transmitted ++ [segment])
    (carries : Carries segment view.sender.sendNext.value left false)
    (ready : ∀ offset, view.sender.sendNext.value = iss.advanced offset →
      Slices.At stream offset left → task'.Ready iss stream view'.sender) :
    Transmits iss stream acked view' task' := by
  obtain ⟨offset, next, slice⟩ := holds.sending.next_front queue (by simp [occupied])
  have part : Slices.At stream offset left := by
    have taken := slice.take left.length
    rwa [List.take_left] at taken
  refine holds.emit ?_ done sent ?_ (ready offset next part)
  · refine holds.sending.transmit queue occupied ?_ ?_ ?_ ?_ ?_ ?_
    · rw [sender]
      rfl
    · rw [sender]
      simp [Sender.unackedBuffers, Sender.after]
    · rw [sender]
    · rw [sender]
      rfl
    · rw [sender]
      rfl
    · rw [sender]
      rfl
  · rw [next] at carries
    exact .data offset left carries occupied part

end Transmits

/-! ## Steps and runs -/

/-- Whether a round of the coroutine takes the byte of a window probe. -/
def Connection.probes (c : Connection κ ρ) : ArpReply → Bool
  | .resolved _ =>
    match c.task with
    | .queryProbe _ => true
    | .top => decide (c.cb.sender.sendNext.value ≠ c.cb.sender.unsentSeqNo.value ∧
        c.cb.sender.sendWindow.value.toNat = 0)
    | _ => false
  | _ => false

/-- The condition under which the queues keep their meaning: they hold less than the
sequence space, the application sends no empty buffer, and no window probe takes the
only byte of a buffer. -/
def Connection.StreamKept (c : Connection κ ρ) : Action → Prop
  | .send _ buf => c.cb.sender.held + 1 < 2 ^ 32 ∧ buf ≠ []
  | .senderRound _ reply => c.cb.sender.held + 1 < 2 ^ 32 ∧
    (c.probes reply = true → c.cb.sender.topSizeUnsent ≠ some 1)
  | _ => c.cb.sender.held + 1 < 2 ^ 32

instance (c : Connection κ ρ) (action : Action) : Decidable (c.StreamKept action) :=
  match action with
  | .send _ _ => inferInstanceAs (Decidable (_ ∧ _))
  | .senderRound _ _ => inferInstanceAs (Decidable (_ ∧ _))
  | .receive _ _ _ | .pollRecv _ | .close _ | .retransmitterRound _ | .acknowledgerRound _ =>
    inferInstanceAs (Decidable (_ < _))

/-- What a sender holds fits in 32 bits, its FIN included. -/
theorem Connection.StreamKept.small {c : Connection κ ρ} {action : Action}
    (kept : c.StreamKept action) : c.cb.sender.held + 1 < 2 ^ 32 := by
  cases action with
  | send | senderRound => exact kept.1
  | receive | pollRecv | close | retransmitterRound | acknowledgerRound => exact kept

variable [CongestionControl κ] [RtoCalculator ρ] {profile : Profile} {iss : SeqNumber}
  {stream : Buffer} {acked : Nat}

namespace Transmits

/-- A round of the coroutine. -/
theorem round {env : Env} {reply : ArpReply} {c : Connection κ ρ} {cb : ControlBlock κ ρ}
    {task : SenderTask} (holds : Transmits iss stream acked c.cb.view c.task)
    (kept : c.StreamKept (.senderRound env reply))
    (done : c.task.round profile env reply c.cb = .ok (task, cb)) :
    Transmits iss stream acked cb.view task := by
  obtain ⟨small, whole⟩ := kept
  have ready {task : SenderTask} (captured : SenderTask.Captured profile c.cb task) :
      task.Ready iss stream c.cb.sender := holds.sending.ready small captured
  obtain ⟨seen, reads⟩ | ⟨sendNext, remoteLinkAddr, before, rfl, sent, like, asked⟩ |
    ⟨sendNext, winSz, sentData, effectiveCwnd, remoteLinkAddr, before, sent, like, asked⟩ |
    ⟨sendNext, buf, remoteLinkAddr, changes, timeout, deadline, timeout', deadline', segment,
      waits, rfl, carries, seen⟩ := SenderTask.round_cases done
  · rw [seen]
    refine ⟨holds.sending, ?_, holds.emitted⟩
    rcases reads with rfl | nothing | captured
    · exact holds.task
    · exact .rests nothing
    · exact ready captured
  · obtain ⟨byte, buf, rest, segment, changes, queue, rfl, carries, seen⟩ :=
      SenderTask.sendProbe_ok sent
    have same : before.sender = c.cb.sender := congrArg View.sender like
    rw [same] at queue
    have probing : c.probes (.resolved remoteLinkAddr) = true ∧
        sendNext = c.cb.sender.sendNext.value := by
      rcases asked with waits | ⟨top, captured⟩
      · have ready := holds.task
        rw [waits] at ready
        refine ⟨by simp [Connection.probes, waits], ?_⟩
        cases ready with
        | rests nothing => cases nothing
        | probe queue occupied => rfl
      · cases captured with
        | probe unsent closed => exact ⟨by simp [Connection.probes, top, unsent, closed], rfl⟩
    obtain ⟨probing, rfl⟩ := probing
    have more : buf ≠ [] := by
      intro only
      apply whole probing
      rw [Sender.topSizeUnsent, queue, only]
      rfl
    refine holds.departs [byte] buf env.now queue (by simp) ?_ ?_ ?_ carries ?_
    · rw [seen, if_neg more, same]
      rfl
    · rw [seen, ← like]
      rfl
    · rw [seen, ← like]
      rfl
    · intro offset next slice
      rw [show c.cb.sender.sendNext.value = iss.advanced offset from next]
      exact .persist slice (by simp)
  · obtain ⟨windowRoom, cwndRoom, front, rest, segment, windowRooms, cwndRooms, queue, rfl, carries,
      seen⟩ := SenderTask.sendSegment_ok sent
    have same : before.sender = c.cb.sender := congrArg View.sender like
    have asks : (SenderTask.querySend sendNext winSz sentData effectiveCwnd).Ready iss stream
        c.cb.sender := by
      rcases asked with waits | captured
      · rw [← waits]
        exact holds.task
      · exact ready captured
    rw [same] at queue carries
    cases asks with
    | rests nothing => cases nothing
    | send queue' occupied open' open'' =>
      cases queue.symm.trans queue'
      have mss := holds.sending.mss
      change 0 < c.cb.sender.mss at mss
      rw [subU32_of_le profile (Nat.le_of_lt open')] at windowRooms
      rw [subU32_of_le profile (Nat.le_of_lt open'')] at cwndRooms
      cases windowRooms
      cases cwndRooms
      have length := List.length_pos_iff.mpr occupied
      generalize size : min (min (winSz - sentData) c.cb.sender.mss) (effectiveCwnd - sentData) =
        maxSize at carries
      have taken : front.take maxSize ≠ [] := by
        apply List.ne_nil_of_length_pos
        rw [List.length_take]
        omega
      rw [show ((front.take maxSize).length == 0) = false by simpa using taken] at carries
      refine holds.departs (front.take maxSize) (front.drop maxSize) env.now
        (by rw [List.take_append_drop]; exact queue) taken ?_ ?_ ?_ carries
        (fun _ _ _ => .rests rfl)
      · have cut : (if front.length > maxSize then front.drop maxSize :: rest else rest) =
            if front.drop maxSize = [] then rest else front.drop maxSize :: rest := by
          simp only [List.drop_eq_nil_iff]
          split <;> split <;> first | rfl | omega
        rw [seen, same]
        dsimp only
        rw [size, cut, show sequenceNumbers (front.take maxSize) = (front.take maxSize).length from
          span_of_ne taken]
        rfl
      · rw [seen, ← like]
        rfl
      · rw [seen, ← like]
        rfl
  · have waiting := holds.task
    rw [waits] at waiting
    rw [seen]
    cases waiting with
    | rests nothing => cases nothing
    | persist slice occupied =>
      exact holds.emit holds.sending rfl rfl (.data _ _ carries occupied slice)
        (.persist slice occupied)

/-- An arriving segment. -/
theorem receive {env : Env} {header : TcpHeader} {data : Buffer} {cb cb' : ControlBlock κ ρ}
    {task : SenderTask} (holds : Transmits iss stream acked cb.view task)
    (small : cb.sender.held + 1 < 2 ^ 32)
    (received : cb.receive profile env header data = .ok cb') :
    Transmits iss stream
      (acked + cb.sender.sendUnacked.value.ahead cb'.sender.sendUnacked.value) cb'.view task := by
  obtain ⟨⟨acks, pure, sent⟩, done, after⟩ := ControlBlock.receive_acks received
  have sending : Sending iss stream
      (acked + cb.sender.sendUnacked.value.ahead cb'.sender.sendUnacked.value) cb'.sender
        cb.userIsDoneSending ∧
      cb'.sender.sendNext = cb.sender.sendNext ∧
      cb'.sender.unsentQueue = cb.sender.unsentQueue := by
    obtain ⟨-, after⟩ | ⟨-, same⟩ := after
    · exact holds.sending.received small after
    · rw [same, SeqNumber.ahead_self]
      exact ⟨holds.sending, rfl, rfl⟩
  obtain ⟨sending, next, queue⟩ := sending
  refine ⟨?_, ?_, ?_⟩
  · change Sending _ _ _ cb'.sender cb'.userIsDoneSending
    rw [done]
    exact sending
  · have queue' : cb'.sender.unsentQueue = cb.sender.unsentQueue ++ [] := by
      rw [queue, List.append_nil]
    have ready := holds.task.keep [] queue' (fun _ => by rw [next]; rfl)
    rwa [List.append_nil] at ready
  · intro segment member
    change segment ∈ cb'.transmitted at member
    change Emitted _ _ cb'.userIsDoneSending segment
    rw [sent] at member
    rw [done]
    exact holds.acknowledges pure segment member

omit [CongestionControl κ] [RtoCalculator ρ] in
/-- A retransmission sends the front of the unacknowledged queue again. -/
theorem retransmit {env : Env} {cb cb' : ControlBlock κ ρ} {task : SenderTask}
    (holds : Transmits iss stream acked cb.view task)
    (done : cb.retransmit profile env = .ok cb') :
    Transmits iss stream acked cb'.view task := by
  obtain rfl | ⟨front, rest, queue, sends⟩ := ControlBlock.retransmit_cases done
  · exact holds
  have buffers : cb.sender.unackedBuffers = front.bytes :: rest.map UnackedSegment.bytes := by
    rw [Sender.unackedBuffers, queue, List.map_cons]
  have same : (ControlBlock.retransmitted cb.sender front rest).unackedBuffers =
      cb.sender.unackedBuffers := buffers.symm
  have sending : Sending iss stream acked (ControlBlock.retransmitted cb.sender front rest)
      cb.userIsDoneSending := by
    obtain ⟨ordered, data, marked, total, unacked, next, unsent, mss⟩ := holds.sending
    have pending : (ControlBlock.retransmitted cb.sender front rest).pending = cb.sender.pending := by
      rw [Sender.pending, same]
      rfl
    exact ⟨by rw [pending]; exact ordered, by rw [pending]; exact data,
      by rw [pending]; exact marked, by rw [pending]; exact total, unacked,
      by rw [same]; exact next, unsent, mss⟩
  have ready : task.Ready iss stream (ControlBlock.retransmitted cb.sender front rest) := by
    have kept := holds.task.keep [] (show (ControlBlock.retransmitted cb.sender front
      rest).unsentQueue = cb.sender.unsentQueue ++ [] by rw [List.append_nil]; rfl) (fun _ => rfl)
    rwa [List.append_nil] at kept
  rcases sends with seen | ⟨segment, carries, seen⟩
  · rw [seen]
    exact ⟨sending, ready, holds.emitted⟩
  · rw [seen]
    refine holds.emit sending rfl rfl ?_ ready
    obtain ⟨data, fin⟩ := holds.sending.first_pending buffers
    have unacked : cb.sender.sendUnacked.value = iss.advanced acked := holds.sending.unacked
    rw [unacked] at carries
    by_cases marker : front.bytes = []
    · obtain ⟨closed, whole⟩ := fin marker
      rw [marker, whole] at carries
      exact .fin closed carries
    · rw [show (front.bytes.length == 0) = false by simpa using marker] at carries
      exact .data acked front.bytes carries marker (data marker)

end Transmits

namespace Connection

/-- Sending, closing and the coroutines keep the relation with what they accept. -/
theorem sends_transmits {source target : Connection κ ρ} {action : Action}
    (sends : action.sends = true) (kept : source.StreamKept action)
    (holds : Transmits iss stream acked source.cb.view source.task)
    (advanced : source.step profile action = .ok target) :
    Transmits iss (stream ++ accepted profile ⟨source, action, target⟩) acked target.cb.view
      target.task := by
  cases action with
  | receive | pollRecv => cases sends
  | send env buf =>
    have occupied := kept.2
    obtain ⟨⟨cb, result⟩, sent, advanced⟩ := bind_ok.mp advanced
    cases advanced
    unfold accepted
    dsimp only
    rw [sent]
    obtain ⟨fail, rfl, seen⟩ | ⟨active, -, rfl, seen⟩ | ⟨active, path, rfl, segment, carries, seen⟩ :=
      ControlBlock.send_cases sent
    · dsimp only
      rw [List.append_nil, seen]
      exact holds
    · have marks : buf = [] ↔ cb.view.userIsDoneSending = true := by
        rw [seen]
        simp [ControlBlock.view, occupied, active]
      exact holds.queued active marks (by rw [seen]; rfl) (by rw [seen])
    · have marks : buf = [] ↔ cb.view.userIsDoneSending = true := by
        rw [seen]
        simp [ControlBlock.view, View.emitted, occupied, active]
      exact holds.immediate active marks path.1 (by rw [seen]; rfl) (by rw [seen]; rfl) carries
  | close env =>
    obtain ⟨cb, closed, advanced⟩ := bind_ok.mp advanced
    cases advanced
    change Transmits iss (stream ++ []) _ _ _
    obtain ⟨-, rfl⟩ | ⟨active, -, seen⟩ | ⟨active, path, segment, carries, seen⟩ :=
      ControlBlock.close_cases closed
    · rw [List.append_nil]
      exact holds
    · exact holds.queued active (by rw [seen]; simp) (by rw [seen]; rfl) (by rw [seen])
    · exact holds.immediate active (by rw [seen]; simp) path.1 (by rw [seen]; rfl)
        (by rw [seen]; rfl) carries
  | senderRound env reply =>
    obtain ⟨⟨task, cb⟩, done, advanced⟩ := bind_ok.mp advanced
    cases advanced
    change Transmits iss (stream ++ []) _ _ _
    rw [List.append_nil]
    exact holds.round kept done
  | retransmitterRound env =>
    obtain ⟨cb, done, advanced⟩ := bind_ok.mp advanced
    cases advanced
    change Transmits iss (stream ++ []) _ _ _
    rw [List.append_nil]
    obtain ⟨-, rfl⟩ | ⟨-, done⟩ := backgroundRound_cases done
    · exact holds
    obtain seen | ⟨before, after, sent, like, like'⟩ := ControlBlock.retransmitterRound_cases done
    · rw [seen]
      exact holds
    · rw [← like']
      rw [← like] at holds
      exact holds.retransmit sent
  | acknowledgerRound env =>
    obtain ⟨cb, done, advanced⟩ := bind_ok.mp advanced
    cases advanced
    change Transmits iss (stream ++ []) _ _ _
    rw [List.append_nil]
    obtain ⟨-, rfl⟩ | ⟨-, done⟩ := backgroundRound_cases done
    · exact holds
    obtain rfl | sent := ControlBlock.acknowledgerRound_cases done
    · exact holds
    · obtain ⟨-, acks, pure, seen⟩ := ControlBlock.sendAck_ok sent
      rw [seen]
      exact ⟨holds.sending, holds.task, holds.acknowledges pure⟩

/-- One step keeps the relation, with what it accepts and what it acknowledges. -/
theorem step_transmits {source target : Connection κ ρ} {action : Action}
    (kept : source.StreamKept action)
    (holds : Transmits iss stream acked source.cb.view source.task)
    (advanced : source.step profile action = .ok target) :
    Transmits iss (stream ++ accepted profile ⟨source, action, target⟩)
      (acked + source.cb.sender.sendUnacked.value.ahead target.cb.sender.sendUnacked.value)
      target.cb.view target.task := by
  cases action with
  | receive env header data =>
    have small := kept.small
    obtain ⟨cb, received, advanced⟩ := bind_ok.mp advanced
    cases advanced
    change Transmits iss (stream ++ []) _ _ _
    rw [List.append_nil]
    exact holds.receive small received
  | pollRecv waker =>
    cases advanced
    change Transmits iss (stream ++ []) _ _ _
    have same : (source.cb.pollRecv waker).1.view = { source.cb.view with
        reception := (source.cb.pollRecv waker).1.reception } := by
      simp only [ControlBlock.pollRecv]
      split <;> rfl
    have sender : (source.cb.pollRecv waker).1.sender = source.cb.sender := congrArg View.sender same
    rw [List.append_nil, sender, SeqNumber.ahead_self, Nat.add_zero, same]
    exact ⟨holds.sending, holds.task, holds.emitted⟩
  | send | close | senderRound | retransmitterRound | acknowledgerRound =>
    have same : target.cb.sender.sendUnacked = source.cb.sender.sendUnacked :=
      (step_undisturbed rfl advanced).unacked
    rw [same, SeqNumber.ahead_self, Nat.add_zero]
    exact sends_transmits rfl kept holds advanced

/-- The relation along every run that keeps the stream. -/
theorem run_transmits {args : NewConnection} (mss : 1 ≤ args.senderMss)
    {past : List (Transition κ ρ)} {state : Connection κ ρ}
    (run : Run profile (Connection.new args) past state) (kept : Runs.Meets StreamKept past) :
    Transmits args.senderSeqNo (allAccepted profile past) (Connection.acked past) state.cb.view
      state.task := by
  refine Runs.run_invariant (fun past (state : Connection κ ρ) =>
    Transmits args.senderSeqNo (allAccepted profile past) (Connection.acked past) state.cb.view
      state.task) ?_ ?_ run kept
  · exact ⟨⟨trivial, rfl, by simp [Sender.pending, Sender.unackedBuffers, Connection.new,
      ControlBlock.new, ControlBlock.view, Sender.new], rfl, (SeqNumber.advanced_zero _).symm,
      (SeqNumber.advanced_zero _).symm, (SeqNumber.advanced_zero _).symm, mss⟩, .rests rfl,
      by simp [Connection.new, ControlBlock.new, ControlBlock.view]⟩
  · intro past source action target _ kept holds advanced
    exact step_transmits kept holds advanced

end Connection

end Capybara
