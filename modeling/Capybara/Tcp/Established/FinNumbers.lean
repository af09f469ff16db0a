import Capybara.Tcp.Established.UnsentAccounting
import Capybara.Tcp.Established.WindowAccounting

/-!
# The numbers of the two FINs

Our FIN leaves with the number that `send_next` stood at, and `send_next` moves on by one.
Whatever is transmitted for the first time after it moves `send_next` further, so that the
distance between the two is one more than what was sent since. This holds in every run, also
where the FIN is not the last thing sent.

The peer's FIN has the number behind the text of the segment that carried it. It is taken
with that segment, or remembered and taken once the text before it has been joined.
-/

namespace Capybara

open EndMarkers

variable {κ ρ : Type}

/-! ## Our FIN -/

namespace Connection

/-- The sequence numbers that a step is the first to use: those of the buffers it puts on the
unacknowledged queue, where the empty one is the FIN and has a number of its own. -/
def newNumbers (transition : Transition κ ρ) : Nat :=
  spans (transition.target.cb.sender.unackedBuffers.drop
    transition.source.cb.sender.unackedBuffers.length)

/-- The numbers of a step are those of what it appends. -/
theorem newNumbers_append {transition : Transition κ ρ} {more : List Buffer}
    (buffers : transition.target.cb.sender.unackedBuffers =
      transition.source.cb.sender.unackedBuffers ++ more) : newNumbers transition = spans more := by
  rw [newNumbers, buffers, List.drop_left]

/-- The sequence numbers used for the first time along a run. -/
def allNewNumbers : List (Transition κ ρ) → Nat
  | [] => 0
  | transition :: past => allNewNumbers past + newNumbers transition

/-- The step transmits a FIN for the first time. -/
structure SendsFin (transition : Transition κ ρ) (segment : TcpSegment) : Prop where
  sent : transition.target.cb.transmitted = transition.source.cb.transmitted ++ [segment]
  fin : segment.tcpHdr.fin = true
  first : transition.target.cb.sender.unackedBuffers =
    transition.source.cb.sender.unackedBuffers ++ [[]]

/-- A FIN has left, and `send_next` is behind its number by one and by everything sent for
the first time since. -/
def FinBehind (past : List (Transition κ ρ)) (c : Connection κ ρ) : Prop :=
  ∃ later leaving earlier segment, past = later ++ leaving :: earlier ∧ SendsFin leaving segment ∧
    segment ∈ c.cb.transmitted ∧
    c.cb.sender.sendNext.value = segment.tcpHdr.seqNum.advanced (1 + allNewNumbers later)

/-- While the coroutine waits for the link address with a segment to form, its copy of
`send_next` is the current one, because something unsent keeps `send` off its fast path. -/
def Captures (c : Connection κ ρ) : Prop :=
  match c.task with
  | .querySend sendNext _ _ _ =>
    sendNext = c.cb.sender.sendNext.value ∧ c.cb.sender.unsentQueue ≠ []
  | _ => True

end Connection

/-- Removing acknowledged data shortens the queue and adds no end marker. -/
theorem Sender.removeAcknowledged_sheds [RtoCalculator ρ] {profile : Profile} {now : Instant}
    {queue queue' : List UnackedSegment} {count : Nat} {rto rto' : ρ}
    (removed : removeAcknowledged profile now queue count rto = .ok (queue', rto')) :
    queue'.length ≤ queue.length ∧
      ([] ∈ queue'.map UnackedSegment.bytes → [] ∈ queue.map UnackedSegment.bytes) := by
  induction queue generalizing count rto with
  | nil =>
    rw [removeAcknowledged] at removed
    split at removed
    · cases removed
      exact ⟨Nat.le_refl _, id⟩
    · split at removed <;> cases removed
  | cons segment queue inductionHypothesis =>
    rw [removeAcknowledged] at removed
    split at removed
    · cases removed
      exact ⟨Nat.le_refl _, id⟩
    dsimp only at removed
    split at removed
    · -- A part of the front segment is left, and it is not empty.
      rename_i part
      obtain ⟨bytes, adjusts, removed⟩ := bind_ok.mp removed
      obtain ⟨-, rfl⟩ := Buffer.adjust_ok adjusts
      cases removed
      refine ⟨Nat.le_refl _, fun marker => ?_⟩
      obtain empty | further := List.mem_cons.mp marker
      · have long : segment.bytes.length ≤ count := List.drop_eq_nil_iff.mp empty.symm
        omega
      · exact List.mem_cons_of_mem _ further
    split at removed
    · obtain ⟨-, -, removed⟩ := bind_ok.mp removed
      cases removed
      exact ⟨Nat.le_succ _, List.mem_cons_of_mem _⟩
    · obtain ⟨shorter, marker⟩ := inductionHypothesis removed
      exact ⟨Nat.le_succ_of_le shorter, fun member => List.mem_cons_of_mem _ (marker member)⟩

/-- What sending does to the numbers: data on the unacknowledged queue moves `send_next`, and
a FIN sent again has its end marker there; or a FIN is sent for the first time. -/
inductive View.Uses (view view' : View) : Prop where
  | data (more : List Buffer) (data : [] ∉ more)
      (buffers : view'.sender.unackedBuffers = view.sender.unackedBuffers ++ more)
      (next : view'.sender.sendNext.value = view.sender.sendNext.value.advanced (spans more))
      (state : view'.state = view.state ∨
        (view'.state = ControlBlock.stateAfterFinSent view.state ∧
          [] ∈ view.sender.unackedBuffers))
  | fin (segment : TcpSegment) (fin : segment.tcpHdr.fin = true)
      (sent : view'.transmitted = view.transmitted ++ [segment])
      (buffers : view'.sender.unackedBuffers = view.sender.unackedBuffers ++ [[]])
      (next : view'.sender.sendNext.value = view.sender.sendNext.value.advanced 1)
      (state : view'.state = ControlBlock.stateAfterFinSent view.state)

namespace View.Uses

variable {view view' : View}

/-- Without a buffer for the unacknowledged queue no number is used. -/
theorem none (buffers : view'.sender.unackedBuffers = view.sender.unackedBuffers)
    (next : view'.sender.sendNext.value = view.sender.sendNext.value)
    (state : view'.state = view.state ∨
      (view'.state = ControlBlock.stateAfterFinSent view.state ∧
        [] ∈ view.sender.unackedBuffers)) : view.Uses view' := by
  refine .data [] List.not_mem_nil ?_ ?_ state
  · rw [buffers, List.append_nil]
  · rw [next, spans_nil, SeqNumber.advanced_zero]

/-- A buffer sent for the first time is data, or the FIN. -/
theorem buffer {segment : TcpSegment} {bytes : Buffer}
    (fin : segment.tcpHdr.fin = (bytes.length == 0))
    (sent : view'.transmitted = view.transmitted ++ [segment])
    (buffers : view'.sender.unackedBuffers = view.sender.unackedBuffers ++ [bytes])
    (next : view'.sender.sendNext.value =
      view.sender.sendNext.value.advanced (sequenceNumbers bytes))
    (state : view'.state = (view.emitted segment).state) : view.Uses view' := by
  rw [View.emitted, fin] at state
  cases bytes with
  | nil => exact .fin segment fin sent buffers next state
  | cons byte bytes =>
    refine .data [byte :: bytes] (by simp) buffers ?_ (.inl state)
    rw [next, spans_cons, spans_nil, Nat.add_zero]
    rfl

end View.Uses

/-- Sending uses numbers in this way. -/
theorem View.Sends.uses {view view' : View} (sends : view.Sends view') : view.Uses view' := by
  have buffers (sender : Sender) (bytes : Buffer) (now : Instant) (sent : Nat) :
      (sender.after bytes now sent).unackedBuffers = sender.unackedBuffers ++ [bytes] :=
    List.map_append
  have marked {segment : UnackedSegment} {rest : List UnackedSegment}
      (queue : view.sender.unackedQueue = segment :: rest) :
      (ControlBlock.retransmitted view.sender segment rest).unackedBuffers =
        view.sender.unackedBuffers := by
    simp only [Sender.unackedBuffers, ControlBlock.retransmitted, queue, List.map_cons]
  cases sends with
  | quiet | acknowledges | queues => exact .none rfl rfl (.inl rfl)
  | immediate buf _ now _ _ carries =>
    exact .buffer carries.fin rfl (buffers _ buf now (sequenceNumbers buf)) rfl rfl
  | @probes now _ byte _ _ _ _ carries =>
    exact .buffer (show _ = ([byte].length == 0) from carries.fin) rfl (buffers _ [byte] now 1) rfl rfl
  | @departs now maxSize _ front _ _ _ carries =>
    exact .buffer carries.fin rfl
      (buffers _ (front.take maxSize) now (sequenceNumbers (front.take maxSize))) rfl rfl
  | repeats carries =>
    refine .none rfl rfl (.inl ?_)
    rw [View.emitted, carries.fin]
    rfl
  | marks queue => exact .none (marked queue) rfl (.inl rfl)
  | @retransmits segment _ _ queue carries =>
    refine .none (marked queue) rfl ?_
    simp only [View.emitted, carries.fin]
    split
    · rename_i empty
      refine .inr ⟨rfl, ?_⟩
      rw [Sender.unackedBuffers, queue, List.map_cons,
        List.length_eq_zero_iff.mp (eq_of_beq empty)]
      exact List.mem_cons_self
    · exact .inl rfl

variable [CongestionControl κ] [RtoCalculator ρ] {profile : Profile}

/-- An arriving segment uses no number and queues no end marker. -/
theorem ControlBlock.receive_uses {env : Env} {header : TcpHeader} {data : Buffer}
    {cb cb' : ControlBlock κ ρ} (received : cb.receive profile env header data = .ok cb') :
    cb'.sender.sendNext = cb.sender.sendNext ∧ cb'.sender.unsentQueue = cb.sender.unsentQueue ∧
    cb'.sender.unackedBuffers.length ≤ cb.sender.unackedBuffers.length ∧
    ([] ∈ cb'.sender.unackedBuffers → [] ∈ cb.sender.unackedBuffers) := by
  obtain ⟨-, -, ⟨-, after⟩ | ⟨-, same⟩⟩ := receive_acks received
  · unfold SenderAfterAck at after
    split at after
    · obtain ⟨_, removed, -, next, queue, -⟩ := after.sender
      obtain ⟨shorter, marker⟩ := Sender.removeAcknowledged_sheds removed
      refine ⟨next, queue, ?_, marker⟩
      rw [Sender.unackedBuffers, Sender.unackedBuffers, List.length_map, List.length_map]
      exact shorter
    · rw [after]
      exact ⟨rfl, rfl, Nat.le_refl _, id⟩
  · rw [same]
    exact ⟨rfl, rfl, Nat.le_refl _, id⟩

namespace Connection

/-- A round of the coroutine leaves its copy current, or none. -/
theorem round_captures {env : Env} {reply : ArpReply} {task task' : SenderTask}
    {cb cb' : ControlBlock κ ρ} (captures : Captures ⟨cb, task⟩)
    (done : task.round profile env reply cb = .ok (task', cb')) : Captures ⟨cb', task'⟩ := by
  obtain ⟨seen, rfl | idle | captured⟩ | ⟨_, _, _, -, sent, -⟩ | ⟨_, _, _, _, _, _, sent, -⟩ |
    ⟨_, _, _, _, _, _, _, _, _, -, rfl, -⟩ := SenderTask.round_cases done
  · have sender : cb'.sender = cb.sender := congrArg View.sender seen
    unfold Captures at captures ⊢
    dsimp only at captures ⊢
    rw [sender]
    exact captures
  · cases task' with
    | queryProbe | persist | querySend => cases idle
    | top | idle | blocked | returned => trivial
  · have sender : cb'.sender = cb.sender := congrArg View.sender seen
    cases captured with
    | probe => trivial
    | send unsent queue =>
      refine ⟨by rw [sender], ?_⟩
      rw [sender, queue]
      exact List.cons_ne_nil _ _
  · obtain ⟨_, _, _, _, _, -, rfl, -⟩ := SenderTask.sendProbe_ok sent
    trivial
  · obtain ⟨_, _, _, _, _, -, -, -, rfl, -⟩ := SenderTask.sendSegment_ok sent
    trivial
  · trivial

/-- The coroutine's copy of `send_next` stays current. -/
theorem step_captures {source target : Connection κ ρ} {action : Action}
    (captures : source.Captures) (advanced : source.step profile action = .ok target) :
    target.Captures := by
  -- While something is unsent, the other steps leave `send_next` alone.
  have keep {cb : ControlBlock κ ρ} (kept : source.cb.sender.unsentQueue ≠ [] →
      cb.sender.sendNext.value = source.cb.sender.sendNext.value ∧ cb.sender.unsentQueue ≠ []) :
      Captures ⟨cb, source.task⟩ := by
    obtain ⟨before, task⟩ := source
    cases task with
    | querySend =>
      obtain ⟨copy, waiting⟩ := captures
      obtain ⟨next, queue⟩ := kept waiting
      exact ⟨copy.trans next.symm, queue⟩
    | top | idle | queryProbe | persist | blocked | returned => trivial
  cases action with
  | receive env header data =>
    obtain ⟨cb, received, advanced⟩ := bind_ok.mp advanced
    cases advanced
    obtain ⟨next, queue, -⟩ := ControlBlock.receive_uses received
    exact keep fun waiting => ⟨by rw [next], by rw [queue]; exact waiting⟩
  | pollRecv waker =>
    cases advanced
    refine keep fun waiting => ?_
    simp only [ControlBlock.pollRecv]
    split <;> exact ⟨rfl, waiting⟩
  | send env buf =>
    obtain ⟨⟨cb, result⟩, sent, advanced⟩ := bind_ok.mp advanced
    cases advanced
    refine keep fun waiting => ?_
    obtain ⟨-, -, seen⟩ | ⟨-, -, -, seen⟩ | ⟨-, path, -⟩ := ControlBlock.send_cases sent
    · rw [show cb.sender = source.cb.sender from congrArg View.sender seen]
      exact ⟨rfl, waiting⟩
    · rw [show cb.sender = ControlBlock.queued source.cb.sender buf from congrArg View.sender seen]
      exact ⟨rfl, by simp [ControlBlock.queued]⟩
    · exact absurd path.1 waiting
  | close env =>
    obtain ⟨cb, closed, advanced⟩ := bind_ok.mp advanced
    cases advanced
    refine keep fun waiting => ?_
    obtain ⟨-, rfl⟩ | ⟨-, -, seen⟩ | ⟨-, path, -⟩ := ControlBlock.close_cases closed
    · exact ⟨rfl, waiting⟩
    · rw [show cb.sender = ControlBlock.queued source.cb.sender [] from congrArg View.sender seen]
      exact ⟨rfl, by simp [ControlBlock.queued]⟩
    · exact absurd path.1 waiting
  | senderRound env reply =>
    obtain ⟨⟨task, cb⟩, done, advanced⟩ := bind_ok.mp advanced
    cases advanced
    exact round_captures captures done
  | retransmitterRound env =>
    obtain ⟨cb, done, advanced⟩ := bind_ok.mp advanced
    cases advanced
    obtain ⟨-, rfl⟩ | ⟨-, done⟩ := backgroundRound_cases done
    · exact captures
    obtain ⟨next, queue, -⟩ := ControlBlock.retransmitterRound_uses done
    exact keep fun waiting => ⟨by rw [next], by rw [queue]; exact waiting⟩
  | acknowledgerRound env =>
    obtain ⟨cb, done, advanced⟩ := bind_ok.mp advanced
    cases advanced
    obtain ⟨-, rfl⟩ | ⟨-, done⟩ := backgroundRound_cases done
    · exact captures
    obtain rfl | sent := ControlBlock.acknowledgerRound_cases done
    · exact captures
    · rw [← (ControlBlock.sendAck_onlyAcks sent).sender] at keep
      exact keep fun waiting => ⟨rfl, waiting⟩

omit [CongestionControl κ] [RtoCalculator ρ] in
/-- A step with nothing but pure acknowledgements transmits no FIN. -/
theorem no_fin_of_acks {source target : ControlBlock κ ρ} {segment : TcpSegment}
    (acks : ∃ acks, PureAcks acks ∧ target.transmitted = source.transmitted ++ acks)
    (sent : target.transmitted = source.transmitted ++ [segment]) : segment.tcpHdr.fin = false := by
  obtain ⟨acks, pure, record⟩ := acks
  obtain rfl : acks = [segment] := List.append_cancel_left (record.symm.trans sent)
  exact (pure segment List.mem_cons_self).2

/-- A FIN sent for the first time has the number that `send_next` stands at. -/
theorem SendsFin.number {source target : Connection κ ρ} {action : Action} {segment : TcpSegment}
    (captures : source.Captures) (sends : SendsFin ⟨source, action, target⟩ segment)
    (advanced : source.step profile action = .ok target) :
    segment.tcpHdr.seqNum = source.cb.sender.sendNext.value := by
  obtain ⟨sent, fin, first⟩ := sends
  dsimp only at sent first
  have quiet (same : target.cb.transmitted = source.cb.transmitted) : False := by
    rw [same] at sent
    simpa using congrArg List.length sent
  have pure (acks : ∃ acks, PureAcks acks ∧
      target.cb.transmitted = source.cb.transmitted ++ acks) : False := by
    rw [no_fin_of_acks acks sent] at fin
    cases fin
  cases action with
  | receive env header data =>
    obtain ⟨cb, received, advanced⟩ := bind_ok.mp advanced
    cases advanced
    exact (pure (ControlBlock.receive_acks received).1).elim
  | pollRecv waker =>
    cases advanced
    refine (quiet ?_).elim
    simp only [ControlBlock.pollRecv]
    split <;> rfl
  | send env buf =>
    obtain ⟨⟨cb, result⟩, sends, advanced⟩ := bind_ok.mp advanced
    cases advanced
    obtain ⟨-, -, seen⟩ | ⟨-, -, -, seen⟩ | ⟨-, -, -, _, carries, seen⟩ :=
      ControlBlock.send_cases sends
    · exact (quiet (congrArg View.transmitted seen)).elim
    · exact (quiet (congrArg View.transmitted seen)).elim
    · exact (carries.of_appended (congrArg View.transmitted seen) sent).seqNum
  | close env =>
    obtain ⟨cb, closed, advanced⟩ := bind_ok.mp advanced
    cases advanced
    obtain ⟨-, rfl⟩ | ⟨-, -, seen⟩ | ⟨-, -, _, carries, seen⟩ := ControlBlock.close_cases closed
    · exact (quiet rfl).elim
    · exact (quiet (congrArg View.transmitted seen)).elim
    · exact (carries.of_appended (congrArg View.transmitted seen) sent).seqNum
  | senderRound env reply =>
    obtain ⟨⟨task, cb⟩, done, advanced⟩ := bind_ok.mp advanced
    cases advanced
    obtain ⟨seen, -⟩ | ⟨_, _, before, -, probes, like, -⟩ |
      ⟨_, _, _, _, _, before, forms, like, asked⟩ | ⟨_, _, _, _, _, _, _, _, _, -, -, carries, seen⟩ :=
      SenderTask.round_cases done
    · exact (quiet (congrArg View.transmitted seen)).elim
    · obtain ⟨_, _, _, _, _, -, -, carries, seen⟩ := SenderTask.sendProbe_ok probes
      have earlier : before.transmitted = source.cb.transmitted := congrArg View.transmitted like
      have record := (congrArg View.transmitted seen).trans (congrArg (· ++ [_]) earlier)
      have plain := (carries.of_appended record sent).fin
      rw [fin] at plain
      cases plain
    · obtain ⟨_, _, _, _, _, -, -, -, -, carries, seen⟩ := SenderTask.sendSegment_ok forms
      have earlier : before.transmitted = source.cb.transmitted := congrArg View.transmitted like
      have record := (congrArg View.transmitted seen).trans (congrArg (· ++ [_]) earlier)
      rw [(carries.of_appended record sent).seqNum]
      rcases asked with waits | captured
      · unfold Captures at captures
        rw [waits] at captures
        exact captures.1
      · cases captured
        rfl
    · have plain := (carries.of_appended (congrArg View.transmitted seen) sent).fin
      rw [fin] at plain
      cases plain
  | retransmitterRound env =>
    obtain ⟨cb, done, advanced⟩ := bind_ok.mp advanced
    cases advanced
    have same : cb.sender.unackedBuffers = source.cb.sender.unackedBuffers := by
      obtain ⟨-, rfl⟩ | ⟨-, done⟩ := backgroundRound_cases done
      · rfl
      · exact (ControlBlock.retransmitterRound_uses done).2.2
    rw [same] at first
    simpa using congrArg List.length first
  | acknowledgerRound env =>
    obtain ⟨cb, done, advanced⟩ := bind_ok.mp advanced
    cases advanced
    obtain ⟨-, rfl⟩ | ⟨-, done⟩ := backgroundRound_cases done
    · exact (quiet rfl).elim
    obtain rfl | sends := ControlBlock.acknowledgerRound_cases done
    · exact (quiet rfl).elim
    · exact (pure (ControlBlock.sendAck_onlyAcks sends).acks).elim

/-- `send_next` moves by the numbers that a step is the first to use. -/
theorem step_newNumbers {source target : Connection κ ρ} {action : Action}
    (advanced : source.step profile action = .ok target) :
    target.cb.sender.sendNext.value =
      source.cb.sender.sendNext.value.advanced (newNumbers ⟨source, action, target⟩) := by
  cases action with
  | receive env header data =>
    obtain ⟨cb, received, advanced⟩ := bind_ok.mp advanced
    cases advanced
    obtain ⟨next, -, shorter, -⟩ := ControlBlock.receive_uses received
    rw [newNumbers, List.drop_eq_nil_of_le shorter, spans_nil, SeqNumber.advanced_zero, next]
  | pollRecv waker =>
    cases advanced
    have same : (source.cb.pollRecv waker).1.sender = source.cb.sender := by
      simp only [ControlBlock.pollRecv]
      split <;> rfl
    rw [newNumbers, same, List.drop_length, spans_nil, SeqNumber.advanced_zero]
  | send | close | senderRound | retransmitterRound | acknowledgerRound =>
    cases (step_sends rfl advanced).uses with
    | data more _ buffers next =>
      rw [newNumbers_append buffers]
      exact next
    | fin _ _ _ buffers next =>
      rw [newNumbers_append buffers]
      exact next

/-- A FIN that has left stays where it is, and `send_next` moves on behind it. -/
theorem FinBehind.step {past : List (Transition κ ρ)} {source target : Connection κ ρ}
    {action : Action} (behind : FinBehind past source)
    (advanced : source.step profile action = .ok target) :
    FinBehind (⟨source, action, target⟩ :: past) target := by
  obtain ⟨later, leaving, earlier, segment, rfl, sends, member, next⟩ := behind
  obtain ⟨more, record⟩ := step_transmitted advanced
  refine ⟨⟨source, action, target⟩ :: later, leaving, earlier, segment, rfl, sends, ?_, ?_⟩
  · rw [record]
    exact List.mem_append_left more member
  · rw [step_newNumbers advanced, next, SeqNumber.advanced_advanced, Nat.add_assoc]
    rfl

/-- A FIN that leaves now is one number behind `send_next`. -/
theorem SendsFin.behind {source target : Connection κ ρ} {action : Action} {segment : TcpSegment}
    (captures : source.Captures) (sends : SendsFin ⟨source, action, target⟩ segment)
    (advanced : source.step profile action = .ok target) (past : List (Transition κ ρ)) :
    FinBehind (⟨source, action, target⟩ :: past) target := by
  refine ⟨[], _, past, segment, rfl, sends, ?_, ?_⟩
  · rw [show target.cb.transmitted = _ from sends.sent]
    exact List.mem_append_right _ List.mem_cons_self
  · rw [sends.number captures advanced, step_newNumbers advanced, newNumbers_append sends.first]
    rfl

/-- The coroutine's copy is current, and an end marker on the unacknowledged queue is there
because its FIN has left. -/
structure Numbered (past : List (Transition κ ρ)) (c : Connection κ ρ) : Prop where
  captures : c.Captures
  queued : [] ∈ c.cb.sender.unackedBuffers → FinBehind past c

/-- One step keeps that, and only the departure of a FIN changes the state of a step that
sends. -/
theorem step_numbered {past : List (Transition κ ρ)} {source target : Connection κ ρ}
    {action : Action} (numbered : Numbered past source)
    (advanced : source.step profile action = .ok target) :
    Numbered (⟨source, action, target⟩ :: past) target ∧
      (action.sends = true → target.cb.state = source.cb.state ∨
        (target.cb.state = ControlBlock.stateAfterFinSent source.cb.state ∧
          FinBehind (⟨source, action, target⟩ :: past) target)) := by
  have captures := step_captures numbered.captures advanced
  have stays (queued : [] ∈ source.cb.sender.unackedBuffers) :
      FinBehind (⟨source, action, target⟩ :: past) target :=
    (numbered.queued queued).step advanced
  by_cases sending : action.sends = true
  · cases (step_sends sending advanced).uses with
    | data more data buffers _ state =>
      refine ⟨⟨captures, fun marker => ?_⟩, fun _ =>
        state.imp_right fun ⟨finished, queued⟩ => ⟨finished, stays queued⟩⟩
      rw [show target.cb.sender.unackedBuffers = _ from buffers, List.mem_append] at marker
      exact stays (marker.resolve_right data)
    | fin segment fin sent buffers _ state =>
      have behind := SendsFin.behind numbered.captures ⟨sent, fin, buffers⟩ advanced past
      exact ⟨⟨captures, fun _ => behind⟩, fun _ => .inr ⟨state, behind⟩⟩
  · refine ⟨⟨captures, fun marker => stays ?_⟩, fun now => absurd now sending⟩
    cases action with
    | receive env header data =>
      obtain ⟨cb, received, advanced⟩ := bind_ok.mp advanced
      cases advanced
      exact (ControlBlock.receive_uses received).2.2.2 marker
    | pollRecv waker =>
      cases advanced
      simp only [ControlBlock.pollRecv] at marker
      split at marker <;> exact marker
    | send | close | senderRound | retransmitterRound | acknowledgerRound =>
      exact absurd rfl sending

end Connection

/-! ## The peer's FIN -/

/-- The number of the FIN of a segment: the one behind its SYN, if it has one, and its text. -/
def finNumber (header : TcpHeader) (data : Buffer) : SeqNumber :=
  header.seqNum.advanced (header.syn.toNat + data.length)

/-- A segment with the FIN flag has arrived, and its FIN has the number. -/
def Connection.FinHeard (past : List (Connection.Transition κ ρ)) (number : SeqNumber) : Prop :=
  ∃ arrival ∈ past, ∃ env header data, arrival.action = .receive env header data ∧
    header.fin = true ∧ finNumber header data = number

/-- Taking the FIN with the given number, `receive_next` moves over the bytes added to the
receive queue and one number more, and the FIN's number is one of these. -/
def Receiver.TakesFin (before after : Receiver) (number : SeqNumber) : Prop :=
  ∃ more distance, after.recvQueue = before.recvQueue ++ more ∧
    after.receiveNext = before.receiveNext.advanced (more.flatten.length + 1) ∧
    number = before.receiveNext.advanced distance ∧ distance ≤ more.flatten.length

omit [CongestionControl κ] [RtoCalculator ρ] in
/-- Distances that agree up to whole turns lead to one number. -/
theorem SeqNumber.advanced_congr (origin : SeqNumber) {left right : Nat}
    (same : left % 2 ^ 32 = right % 2 ^ 32) : origin.advanced left = origin.advanced right := by
  rw [← SeqNumber.advanced_asU32, asU32, same]
  exact SeqNumber.advanced_asU32 origin right

namespace ControlBlock

variable {env : Env} {cb cb' : ControlBlock κ ρ} {header : TcpHeader} {data : Buffer}
  {segment : Accepted}

omit [CongestionControl κ] [RtoCalculator ρ] in
/-- Cutting the front off leaves the number behind the text where it is. -/
theorem trimFront_number {segment' : Accepted} {receiveNext afterReceiveWindow number : SeqNumber}
    (covers : segment.segStart.advanced (segment.header.syn.toNat + segment.data.length) = number)
    (ends : 0 < segment.segLen → segment.segEnd = number)
    (empty : segment.segLen = 0 → segment.segEnd = segment.segStart)
    (fronts : trimFront profile segment receiveNext afterReceiveWindow = .ok (some segment')) :
    segment'.segStart.advanced (segment'.header.syn.toNat + segment'.data.length) = number ∧
      (0 < segment'.segLen → segment'.segEnd = number) := by
  unfold trimFront at fronts
  split at fronts
  · cases fronts
    exact ⟨covers, ends⟩
  rename_i apart
  split at fronts
  · rename_i before
    split at fronts
    · cases fronts
    rename_i reaches
    obtain ⟨segLen, -, fronts⟩ := bind_ok.mp fronts
    obtain ⟨nbytes, cuts, fronts⟩ := bind_ok.mp fronts
    obtain ⟨rest, adjusts, fronts⟩ := bind_ok.mp fronts
    obtain ⟨enough, rfl⟩ := Buffer.adjust_ok adjusts
    cases fronts
    -- The cut begins before `receiveNext`, so at least one number goes.
    have some : 0 < segment.segStart.ahead receiveNext :=
      Nat.pos_of_ne_zero fun none => apart (SeqNumber.ahead_eq_zero.mp none).symm
    have occupied : 0 < segment.segLen := by
      refine Nat.pos_of_ne_zero fun none => reaches ?_
      rw [empty none]
      exact before
    have cut : nbytes + segment.header.syn.toNat = segment.segStart.ahead receiveNext := by
      rw [SeqNumber.toU32_sub] at cuts
      cases syn : segment.header.syn with
      | false =>
        rw [syn, if_neg Bool.false_ne_true] at cuts
        cases cuts
        rfl
      | true =>
        rw [syn, if_pos rfl, subU32_of_le profile some] at cuts
        cases cuts
        exact Nat.sub_add_cancel some
    refine ⟨?_, fun _ => ends occupied⟩
    rw [← covers, SeqNumber.add_ofU32, SeqNumber.toU32_sub, SeqNumber.advanced_advanced,
      List.length_drop]
    congr 1
    simp only [Bool.toNat_false]
    omega
  split at fronts
  · cases fronts
  · cases fronts
    exact ⟨covers, ends⟩

omit [CongestionControl κ] [RtoCalculator ρ] in
/-- A FIN that the acceptability test leaves in place still has the number it came with:
behind the text that is left, and at the end of the segment. -/
theorem trimToWindow_finNumber
    (trims : cb.trimToWindow profile header data = .ok (some segment))
    (fin : segment.header.fin = true) :
    header.fin = true ∧ (segment.header.syn = false →
      segment.segStart.advanced segment.data.length = finNumber header data) ∧
    (0 < segment.segLen → segment.segEnd = finNumber header data) := by
  obtain ⟨first, adds, trims⟩ := bind_ok.mp trims
  obtain ⟨segLen, adds', trims⟩ := bind_ok.mp trims
  obtain ⟨windowSize, -, trims⟩ := bind_ok.mp trims
  obtain ⟨fronted, fronts, trims⟩ := bind_ok.mp trims
  cases fronted with
  | none => cases trims
  | some fronted =>
    obtain ⟨trimmed, ends, trims⟩ := bind_ok.mp trims
    obtain ⟨-, -, trims⟩ := bind_ok.mp trims
    cases trims
    -- Cutting the end off would have taken the FIN.
    have whole : segment = fronted := by
      unfold trimEnd at ends
      split at ends
      · obtain ⟨_, -, ends⟩ := bind_ok.mp ends
        obtain ⟨_, -, ends⟩ := bind_ok.mp ends
        obtain ⟨_, -, ends⟩ := bind_ok.mp ends
        obtain ⟨_, -, ends⟩ := bind_ok.mp ends
        cases ends
        cases fin
      · exact (Except.ok.inj ends).symm
    subst whole
    have flagged : header.fin = true := by
      rw [trimFront_header fronts] at fin
      exact fin
    have length : segLen = ((data.length % 2 ^ 32 + header.syn.toNat) % 2 ^ 32 + 1) % 2 ^ 32 := by
      rw [flagged, if_pos rfl] at adds'
      rw [addU32_ok adds']
      cases syn : header.syn with
      | false =>
        rw [syn, if_neg Bool.false_ne_true] at adds
        cases adds
        simp [asU32]
      | true =>
        rw [syn, if_pos rfl] at adds
        rw [addU32_ok adds]
        rfl
    have atEnd (occupied : 0 < segLen) :
        (if segLen > 0 then header.seqNum + SeqNumber.ofU32 (segLen - 1) else header.seqNum) =
          finNumber header data := by
      rw [if_pos occupied]
      exact SeqNumber.advanced_congr _ (by omega)
    have atStart (none : segLen = 0) :
        (if segLen > 0 then header.seqNum + SeqNumber.ofU32 (segLen - 1) else header.seqNum) =
          header.seqNum := by
      rw [none, if_neg (Nat.lt_irrefl 0)]
    obtain ⟨covers, last⟩ :=
      trimFront_number (show _ = finNumber header data from rfl) atEnd atStart fronts
    refine ⟨flagged, fun plain => ?_, last⟩
    rw [plain, Bool.toNat_false, Nat.zero_add] at covers
    exact covers

omit [CongestionControl κ] [RtoCalculator ρ] in
/-- Out of order, the remembered FIN stays or is that of the segment. -/
theorem receiveOutOfOrder_finNumber
    (trims : cb.trimToWindow profile header data = .ok (some segment)) {acked : ControlBlock κ ρ}
    (received : acked.receiveOutOfOrder profile env segment = .ok cb') :
    cb'.receiver = acked.receiver ∧ (cb'.outOfOrderFin = acked.outOfOrderFin ∨
      (header.fin = true ∧ cb'.outOfOrderFin = some (finNumber header data))) := by
  unfold receiveOutOfOrder at received
  split at received
  · rename_i textual
    obtain ⟨⟨marked, segLen, segEnd⟩, marks, received⟩ := bind_ok.mp received
    obtain ⟨-, -, received⟩ := bind_ok.mp received
    obtain ⟨stored, stores, received⟩ := bind_ok.mp received
    have occupied : 0 < segment.segLen := by
      simpa using (Bool.and_eq_true_iff.mp textual).1
    have marking : marked.receiver = acked.receiver ∧ (marked.outOfOrderFin = acked.outOfOrderFin ∨
        (header.fin = true ∧ marked.outOfOrderFin = some (finNumber header data))) := by
      split at marks
      · rename_i fin
        obtain ⟨_, -, marks⟩ := bind_ok.mp marks
        cases marks
        obtain ⟨flagged, -, last⟩ := trimToWindow_finNumber trims fin
        exact ⟨rfl, .inr ⟨flagged, congrArg some (last occupied)⟩⟩
      · cases marks
        exact ⟨rfl, .inl rfl⟩
    have storing : stored.receiver = marked.receiver ∧
        stored.outOfOrderFin = marked.outOfOrderFin := by
      split at stores
      · obtain ⟨store, rfl⟩ := storeOutOfOrderSegment_frame stores
        exact ⟨rfl, rfl⟩
      · cases stores
        exact ⟨rfl, rfl⟩
    obtain ⟨-, acks, -, seen⟩ := sendAck_ok received
    have kept := congrArg View.reception seen
    refine ⟨(receiver_eq kept).trans (storing.1.trans marking.1), ?_⟩
    rw [outOfOrderFin_eq kept, storing.2]
    exact marking.2
  · cases received
    exact ⟨rfl, .inl rfl⟩

omit [CongestionControl κ] [RtoCalculator ρ] in
/-- A state that refuses data has taken the peer's FIN, and another one changes nothing. -/
theorem stateAfterFin_refuses {state state' : State} (refuses : state.receivesData = false)
    (next : stateAfterFin state = some state') : state' = state := by
  cases state with
  | established | finWait1 | finWait2 => cases refuses
  | closeWait | closing | lastAck | timeWait =>
    cases next
    rfl
  | closed => cases next

omit [CongestionControl κ] [RtoCalculator ρ] in
/-- In order, the remembered FIN stays, and the state changes only with a FIN taken: the
segment's own or the remembered one. -/
theorem receiveInOrder_finNumber {number : SeqNumber}
    (starts : segment.segStart = cb.receiver.receiveNext)
    (own : segment.header.fin = true → segment.segStart.advanced segment.data.length = number)
    (received : cb.receiveInOrder profile env segment = .ok cb') :
    cb'.outOfOrderFin = cb.outOfOrderFin ∧ (cb'.state = cb.state ∨
      (stateAfterFin cb.state = some cb'.state ∧ ∃ taken, cb.receiver.TakesFin cb'.receiver taken ∧
        ((segment.header.fin = true ∧ taken = number) ∨ cb.outOfOrderFin = some taken))) := by
  by_cases textual : segment.data ≠ [] ∧ cb.state.receivesData = true
  · obtain ⟨joined, front, rest, fin, equation, joins, seen⟩ :=
      receiveInOrder_text profile env starts textual.1 textual.2
    rw [equation] at received
    obtain ⟨acks, -, taken, after⟩ := joined_ok seen received
    have reception := congrArg View.reception after
    refine ⟨congrArg Reception.outOfOrderFin reception, ?_⟩
    cases fin with
    | false => exact .inl taken
    | true =>
      have receiver : cb'.receiver = (cb.reception.joined segment.data front rest true).receiver :=
        congrArg Reception.receiver reception
      have moved : cb'.receiver.recvQueue =
            cb.receiver.recvQueue ++ (segment.data :: front.map Prod.snd) ∧
          cb'.receiver.receiveNext = cb.receiver.receiveNext.advanced
            ((segment.data :: front.map Prod.snd).flatten.length + 1) := by
        rw [receiver, List.flatten_cons, List.length_append, Accounted.flatten_stored]
        exact ⟨rfl, rfl⟩
      have total : (segment.data :: front.map Prod.snd).flatten.length =
          segment.data.length + storedLength front := by
        rw [List.flatten_cons, List.length_append, Accounted.flatten_stored]
      have which := joins.fin
      rw [eq_comm, Bool.or_eq_true, Bool.and_eq_true, beq_iff_eq] at which
      refine .inr ⟨taken.1, ?_⟩
      rcases which with flag | ⟨-, remembered⟩
      · refine ⟨number, ⟨_, segment.data.length, moved.1, moved.2, ?_, by omega⟩, .inl ⟨flag, rfl⟩⟩
        rw [← own flag, starts]
      · exact ⟨_, ⟨_, _, moved.1, moved.2, rfl, Nat.le_of_eq total.symm⟩, .inr remembered⟩
  · have none : segment.data = [] ∨ cb.state.receivesData = false := by
      rw [← Bool.not_eq_true]
      exact Decidable.not_and_iff_not_or_not.mp textual |>.imp_left Decidable.not_not.mp
    rw [receiveInOrder_no_text profile env none] at received
    split at received
    · rename_i flag
      obtain ⟨acks, -, taken, after⟩ := receiveFin_ok received
      have reception := congrArg View.reception after
      have next := congrArg (fun after => after.receiver.receiveNext) reception
      have queue := congrArg (fun after => after.receiver.recvQueue) reception
      refine ⟨congrArg Reception.outOfOrderFin reception, ?_⟩
      by_cases empty : segment.data = []
      · refine .inr ⟨taken.1, number, ⟨[], 0, ?_, next, ?_, Nat.le_refl _⟩, .inl ⟨flag, rfl⟩⟩
        · rw [List.append_nil]
          exact queue
        · rw [← own flag, starts, empty]
          rfl
      · exact .inl (stateAfterFin_refuses (none.resolve_left empty) taken.1)
    · cases received
      exact ⟨rfl, .inl rfl⟩

end ControlBlock

end Capybara
