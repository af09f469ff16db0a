import Capybara.Tcp.Established.SendIntegrity

/-!
# Accounting of the unsent queue

The coroutine decides from `send_next == unsent_seq_no` that nothing is left to
send. The two numbers differ by what the unsent queue takes up as long as `close`
sends its FIN at once. A FIN that `close` has to queue is counted as an empty
buffer, not as one number, so the coroutine stops one entry too early and the FIN
stays in the queue.
-/

namespace Capybara

open EndMarkers

variable {κ ρ : Type}

/-- `close` is called only when its FIN leaves at once, or when it does nothing. -/
def Connection.FinLeaves [CongestionControl κ] (c : Connection κ ρ) : Action → Prop
  | .close env => c.cb.userIsDoneSending = true ∨ c.cb.FastPath env []
  | _ => True

instance [CongestionControl κ] (c : Connection κ ρ) (action : Action) :
    Decidable (c.FinLeaves action) :=
  match action with
  | .close _ => inferInstanceAs (Decidable (_ ∨ _))
  | .send _ _ | .senderRound _ _ | .receive _ _ _ | .pollRecv _ | .retransmitterRound _
  | .acknowledgerRound _ => inferInstanceAs (Decidable True)

variable [CongestionControl κ] [RtoCalculator ρ] {profile : Profile}

/-- The faults of the coroutine that say that the unsent queue is empty. -/
def Fault.ofUnsentQueue : Fault → Bool
  | .noUnsentData | .noBufferInUnsentQueue | .unsentGap => true
  | _ => false

namespace ControlBlock

omit [CongestionControl κ] [RtoCalculator ρ] in
/-- Filling in a header cannot fault on the unsent queue. -/
theorem tcpHeader_avoids (profile : Profile) (cb : ControlBlock κ ρ) :
    Avoids Fault.ofUnsentQueue (cb.tcpHeader profile) := by
  refine .bind (.bind ?_ fun _ _ => .bind (.shrU32 profile _ _ rfl) fun _ _ => ?_) fun _ _ => .ok _
  · intro fault failed
    unfold getReceiveWindowSize at failed
    dsimp only at failed
    cases size : subU32 profile cb.receiveBufferSize.toNat
        (cb.receiver.receiveNext - cb.receiver.readerNext).toU32 with
    | ok value =>
      rw [size] at failed
      cases failed
    | error earlier =>
      rw [size] at failed
      cases failed
      rfl
  · split
    · exact .ok _
    · exact .error rfl

omit [CongestionControl κ] [RtoCalculator ρ] in
/-- Sending a segment cannot fault on the unsent queue. -/
theorem emit_avoids (profile : Profile) (cb : ControlBlock κ ρ) (header : TcpHeader)
    (body : Option Buffer) (remoteLinkAddr : MacAddress) :
    Avoids Fault.ofUnsentQueue (cb.emit profile header body remoteLinkAddr) :=
  .bind (.debugAssert profile _ rfl) fun _ _ => .ok _

end ControlBlock

namespace SenderTask

open ControlBlock

variable {cb : ControlBlock κ ρ} {front : Buffer} {rest : List Buffer}

omit [CongestionControl κ] [RtoCalculator ρ] in
/-- With something in the unsent queue a probe finds it. -/
theorem sendProbe_avoids (profile : Profile) (env : Env) (sendNext : SeqNumber)
    (remoteLinkAddr : MacAddress) (queue : cb.sender.unsentQueue = front :: rest) :
    Avoids Fault.ofUnsentQueue (sendProbe profile env cb sendNext remoteLinkAddr) := by
  have pops : Avoids Fault.ofUnsentQueue (Sender.popOneUnsentByte (front :: rest)) :=
    .bind (Buffer.adjust_avoids _ _ rfl) fun _ _ => .bind (Buffer.trim_avoids _ _ rfl) fun _ _ => .ok _
  unfold sendProbe
  rw [queue]
  refine .bind pops fun popped found => ?_
  cases popped with
  | none =>
    obtain ⟨_, -, found⟩ := bind_ok.mp found
    obtain ⟨_, -, found⟩ := bind_ok.mp found
    cases found
  | some taken =>
    exact .bind (tcpHeader_avoids _ _) fun _ _ => .bind (emit_avoids _ _ _ _ _) fun _ _ => .ok _

/-- With something in the unsent queue a packet is formed from it. -/
theorem sendSegment_avoids (profile : Profile) (env : Env) (sendNext : SeqNumber)
    (winSz sentData effectiveCwnd : Nat) (remoteLinkAddr : MacAddress)
    (queue : cb.sender.unsentQueue = front :: rest) :
    Avoids Fault.ofUnsentQueue
      (sendSegment profile env cb sendNext winSz sentData effectiveCwnd remoteLinkAddr) := by
  unfold sendSegment
  refine .bind (.subU32 _ _ _ rfl) fun windowRoom _ => .bind (.subU32 _ _ _ rfl) fun cwndRoom _ => ?_
  rw [queue]
  generalize min (min windowRoom cb.sender.mss) cwndRoom = maxSize
  have pops : Avoids Fault.ofUnsentQueue (Sender.popUnsent maxSize (front :: rest)) := by
    rw [Sender.popUnsent]
    split
    · exact .bind (Buffer.adjust_avoids _ _ rfl) fun _ _ => .bind (Buffer.trim_avoids _ _ rfl)
        fun _ _ => .ok _
    · exact .ok _
  refine .bind pops fun popped found => ?_
  cases popped with
  | none =>
    rw [Sender.popUnsent] at found
    split at found
    · obtain ⟨_, -, found⟩ := bind_ok.mp found
      obtain ⟨_, -, found⟩ := bind_ok.mp found
      cases found
    · cases found
  | some taken =>
    refine .bind (tcpHeader_avoids _ _) fun _ _ => .bind (.debugAssert _ _ rfl) fun _ _ => ?_
    exact .bind (emit_avoids _ _ _ _ _) fun _ _ => .ok _

end SenderTask

/-- A round of the coroutine finds in the unsent queue what it looks for. -/
theorem Transmits.round_avoids {iss : SeqNumber} {stream : Buffer} {acked : Nat}
    {c : Connection κ ρ} (holds : Transmits iss stream acked c.cb.view c.task) (profile : Profile)
    (env : Env) (reply : ArpReply) :
    Avoids Fault.ofUnsentQueue (c.task.round profile env reply c.cb) := by
  have ready := holds.task
  cases task : c.task with
  | top =>
    rw [SenderTask.round]
    unfold SenderTask.fromTop
    dsimp only
    split
    · exact .ok _
    rename_i unsent
    obtain ⟨front, rest, queue, -⟩ := holds.sending.front_data unsent
    change c.cb.sender.unsentQueue = front :: rest at queue
    split
    · cases reply with
      | pending | failed => exact .ok _
      | resolved remoteLinkAddr => exact SenderTask.sendProbe_avoids _ _ _ _ queue
    · refine .bind (.addU32 _ _ _ rfl) fun _ _ => ?_
      simp only [Sender.topSizeUnsent, queue, List.head?_cons, Option.map_some]
      refine .bind (.addU32 _ _ _ rfl) fun _ _ => ?_
      split
      · exact .ok _
      cases reply with
      | pending | failed => exact .ok _
      | resolved remoteLinkAddr => exact SenderTask.sendSegment_avoids _ _ _ _ _ _ _ queue
  | idle | blocked =>
    rw [SenderTask.round]
    split <;> exact .ok _
  | queryProbe sendNext =>
    rw [task] at ready
    cases ready with
    | rests nothing => cases nothing
    | probe queue occupied =>
      cases reply with
      | pending | failed => exact .ok _
      | resolved remoteLinkAddr => exact SenderTask.sendProbe_avoids _ _ _ _ queue
  | persist =>
    rw [SenderTask.round]
    split
    · exact .ok _
    split
    · exact .ok _
    · exact .bind (ControlBlock.tcpHeader_avoids _ _) fun _ _ =>
        .bind (ControlBlock.emit_avoids _ _ _ _ _) fun _ _ => .ok _
  | querySend sendNext winSz sentData effectiveCwnd =>
    rw [task] at ready
    cases ready with
    | rests nothing => cases nothing
    | send queue occupied windowRoom cwndRoom =>
      cases reply with
      | pending | failed => exact .ok _
      | resolved remoteLinkAddr => exact SenderTask.sendSegment_avoids _ _ _ _ _ _ _ queue
  | returned => exact .ok _

/-- Once the application has closed and nothing is unsent, sending leaves it so. -/
theorem View.Sends.drained {view view' : View} (sends : view.Sends view')
    (done : view.userIsDoneSending = true) (empty : view.sender.unsentQueue = []) :
    view'.sender.unsentQueue = [] := by
  cases sends with
  | quiet | acknowledges | repeats | marks | retransmits => exact empty
  | queues buf ends active | immediate buf ends now active => cases done.symm.trans active
  | probes now queue | departs now maxSize queue => cases empty.symm.trans queue

/-- Sending adds to what has been transmitted. -/
theorem View.Sends.transmitted {view view' : View} (sends : view.Sends view') :
    ∃ more, view'.transmitted = view.transmitted ++ more := by
  cases sends with
  | quiet | queues | marks => exact ⟨[], (List.append_nil _).symm⟩
  | acknowledges | immediate | probes | departs | repeats | retransmits => exact ⟨_, rfl⟩

namespace Connection

/-- Once the application has closed and nothing is unsent, nothing becomes unsent. -/
theorem step_drained {source target : Connection κ ρ} {action : Action}
    (done : source.cb.userIsDoneSending = true) (empty : source.cb.sender.unsentQueue = [])
    (advanced : source.step profile action = .ok target) :
    target.cb.sender.unsentQueue = [] := by
  cases action with
  | receive env header data =>
    obtain ⟨cb, received, advanced⟩ := bind_ok.mp advanced
    cases advanced
    obtain ⟨-, -, ⟨-, after⟩ | ⟨-, same⟩⟩ := ControlBlock.receive_acks received
    · unfold ControlBlock.SenderAfterAck at after
      split at after
      · obtain ⟨_, -, -, -, queue, -⟩ := after.sender
        exact queue.trans empty
      · rw [after]
        exact empty
    · rw [same]
      exact empty
  | pollRecv waker =>
    cases advanced
    simp only [ControlBlock.pollRecv]
    split <;> exact empty
  | send | close | senderRound | retransmitterRound | acknowledgerRound =>
    exact (step_sends rfl advanced).drained done empty

/-- What has been transmitted stays on record. -/
theorem step_transmitted {source target : Connection κ ρ} {action : Action}
    (advanced : source.step profile action = .ok target) :
    ∃ more, target.cb.transmitted = source.cb.transmitted ++ more := by
  cases action with
  | receive env header data =>
    obtain ⟨cb, received, advanced⟩ := bind_ok.mp advanced
    cases advanced
    obtain ⟨⟨acks, -, sent⟩, -⟩ := ControlBlock.receive_acks received
    exact ⟨acks, sent⟩
  | pollRecv waker =>
    cases advanced
    refine ⟨[], ?_⟩
    simp only [ControlBlock.pollRecv, List.append_nil]
    split <;> rfl
  | send | close | senderRound | retransmitterRound | acknowledgerRound =>
    exact (step_sends rfl advanced).transmitted

/-- After `close` nothing is unsent and a FIN has left. -/
def Finished (c : Connection κ ρ) : Prop :=
  c.cb.userIsDoneSending = true →
    c.cb.sender.unsentQueue = [] ∧ ∃ segment ∈ c.cb.transmitted, segment.tcpHdr.fin = true

/-- Whoever closes only when the FIN leaves at once keeps this. -/
theorem step_finished {source target : Connection κ ρ} {action : Action}
    (leaves : source.FinLeaves action) (finished : source.Finished)
    (advanced : source.step profile action = .ok target) : target.Finished := by
  intro done
  by_cases before : source.cb.userIsDoneSending = true
  · obtain ⟨empty, segment, member, fin⟩ := finished before
    obtain ⟨more, record⟩ := step_transmitted advanced
    refine ⟨step_drained before empty advanced, segment, ?_, fin⟩
    rw [record]
    exact List.mem_append_left more member
  · have closes := step_closed advanced
    rw [done, Bool.eq_false_iff.mpr before, Bool.or_false] at closes
    cases action with
    | close env =>
      obtain ⟨cb, closed, advanced⟩ := bind_ok.mp advanced
      cases advanced
      obtain ⟨did, -⟩ | ⟨-, slow, -⟩ | ⟨-, fast, segment, carries, seen⟩ :=
        ControlBlock.close_cases closed
      · exact absurd did before
      · exact absurd (leaves.resolve_left before) slow
      · have queue : cb.sender.unsentQueue = source.cb.sender.unsentQueue :=
          congrArg (fun view => view.sender.unsentQueue) seen
        have record : cb.transmitted = source.cb.transmitted ++ [segment] :=
          congrArg View.transmitted seen
        refine ⟨queue.trans fast.1, segment, ?_, carries.fin⟩
        rw [record]
        simp
    | receive | pollRecv | send | senderRound | retransmitterRound | acknowledgerRound => cases closes

/-- Unsent accounting. Along every run that keeps the stream and in which `close` is
called only when its FIN leaves at once, `unsent_seq_no - send_next` is what the
unsent queue takes up; the two are equal exactly when the queue is empty, a FIN has
left once the application has closed, and the coroutine never misses a buffer.

Proof: to the invariant of `sender_stream` a second one is added, that once the
application has closed the unsent queue is empty and a FIN has left; `FinLeaves` is what
`close` needs to keep it. Without a marker in the unsent queue the numbers it spans are
its bytes. -/
theorem unsent_accounted (profile : Profile) (args : NewConnection) (mss : 1 ≤ args.senderMss)
    {past : List (Transition κ ρ)} {state : Connection κ ρ}
    (run : Run profile (Connection.new args) past state) (kept : Runs.Meets StreamKept past)
    (leaves : Runs.Meets FinLeaves past) (small : state.cb.sender.held + 1 < 2 ^ 32) :
    let sender := state.cb.sender
    sender.sendNext.value.ahead sender.unsentSeqNo.value = spans sender.unsentQueue ∧
    (sender.sendNext.value = sender.unsentSeqNo.value ↔ sender.unsentQueue = []) ∧
    (closed past = true →
      sender.unsentQueue = [] ∧ ∃ segment ∈ state.cb.transmitted, segment.tcpHdr.fin = true) ∧
    ∀ env reply fault, state.task.round profile env reply state.cb = .error fault →
      fault.ofUnsentQueue = false := by
  have transmits := run_transmits mss run kept
  have finished : state.Finished := by
    refine Runs.state_invariant Finished ?_ ?_ run leaves
    · intro done
      cases done
    · intro source action target leaves finished advanced
      exact step_finished leaves finished advanced
  have unmarked : [] ∉ state.cb.sender.unsentQueue := by
    intro marker
    have done := transmits.sending.marked (List.mem_append_right _ marker)
    rw [(finished done).1] at marker
    cases marker
  have accounted : state.cb.sender.sendNext.value.ahead state.cb.sender.unsentSeqNo.value =
      spans state.cb.sender.unsentQueue := by
    have most : state.cb.sender.unsentQueue.flatten.length ≤ state.cb.sender.held := by
      rw [Sender.held, Sender.pending, List.flatten_append, List.length_append]
      exact Nat.le_add_left _ _
    have ends : state.cb.sender.unsentSeqNo.value = state.cb.sender.sendNext.value.advanced
      state.cb.sender.unsentQueue.flatten.length := transmits.sending.unsent
    rw [ends, spans_data unmarked]
    exact SeqNumber.ahead_advanced_of_lt _ (by omega)
  refine ⟨accounted, ?_, ?_, fun env reply => transmits.round_avoids profile env reply⟩
  · rw [← spans_eq_zero, ← accounted, SeqNumber.ahead_eq_zero]
    exact eq_comm
  · rw [← run_closed run]
    exact finished

/-- Two bytes wait for the window, the first leaves as a probe, the second once the
window opens, and then the FIN. -/
theorem unsent_accounted_probed :
    ∃ past state, Run .dev probing past state ∧ Runs.Meets StreamKept past ∧
      Runs.Meets FinLeaves past ∧ closed past = true ∧ state.cb.sender.unsentQueue = [] ∧
      state.cb.sender.sendNext.value = state.cb.sender.unsentSeqNo.value := by
  have executed : ∃ past state, execute .dev probing probedActions = .ok (past, state) ∧
      Runs.Meets StreamKept past ∧ Runs.Meets FinLeaves past ∧ closed past = true ∧
      state.cb.sender.held + 1 < 2 ^ 32 := by
    refine ⟨_, _, rfl, by decide, by decide, by decide, by decide⟩
  obtain ⟨past, state, executed, kept, leaves, closes, small⟩ := executed
  have run := run_of_execute executed
  have accounted := unsent_accounted .dev NewConnection.probing (by decide) run kept leaves small
  have empty := (accounted.2.2.1 closes).1
  exact ⟨past, state, run, kept, leaves, closes, empty, accounted.2.1.mpr empty⟩

/-- Two bytes wait for the window when the application closes. The FIN behind them is
not counted, so the two numbers are two apart and not three; once both bytes have left
and been acknowledged, the coroutine finds nothing to send and waits, with the FIN
still in the queue. -/
theorem queued_fin_forgotten :
    (∃ past state, execute .dev probing [.send (Env.sample 0) [1, 2], .close (Env.sample 0)] =
        .ok (past, state) ∧ Runs.Meets StreamKept past ∧
      state.cb.sender.sendNext.value.ahead state.cb.sender.unsentSeqNo.value = 2 ∧
      spans state.cb.sender.unsentQueue = 3) ∧
    ∃ past state, execute .dev probing [.send (Env.sample 0) [1, 2], .close (Env.sample 0),
        .senderRound (Env.sample 0) (.resolved 2#48), .segment 100 51 [] false,
        .senderRound (Env.sample 1) (.resolved 2#48), .senderRound (Env.sample 1) (.resolved 2#48),
        .segment 100 52 [] false, .senderRound (Env.sample 2) (.resolved 2#48),
        .senderRound (Env.sample 3) (.resolved 2#48)] = .ok (past, state) ∧
      Runs.Meets StreamKept past ∧
      state.cb.sender.sendNext.value = state.cb.sender.unsentSeqNo.value ∧
      state.cb.sender.unsentQueue = [[]] ∧ state.cb.sender.unackedQueue = [] ∧
      state.task.holdsNothing = true ∧
      ∀ segment ∈ state.cb.transmitted, segment.tcpHdr.fin = false :=
  ⟨⟨_, _, rfl, by decide, by decide, by decide⟩,
    ⟨_, _, rfl, by decide, by decide, by decide, by decide, by decide, by decide⟩⟩

end Connection

end Capybara
