import Capybara.Tcp.Established.Acknowledgement
import Capybara.Tcp.Established.Transmission

/-!
# The headers of an established connection

Every segment that a control block hands to the network begins with the header of
`tcp_header`: it neither opens nor resets a connection, and it acknowledges what has
been received when it is built. `Heard` says so of all segments sent so far, for a
property of the acknowledged numbers that the receiving side may rely on.

There is one lemma for each routine that transmits, and `step_heard` for a step of the
connection: the numbers are those before and after it.
-/

namespace Capybara

variable {κ ρ : Type}

/-- A header between a SYN and a reset, which acknowledges a number. -/
structure TcpHeader.Continues (header : TcpHeader) (number : SeqNumber) : Prop where
  noSyn : header.syn = false
  noReset : header.rst = false
  ackNum : header.ackNum = number

namespace ControlBlock

/-- Everything sent so far continues the connection and acknowledges an allowed number. -/
def Heard (allowed : SeqNumber → Prop) (cb : ControlBlock κ ρ) : Prop :=
  ∀ segment ∈ cb.transmitted, ∃ number, allowed number ∧ segment.tcpHdr.Continues number

variable {profile : Profile} {env : Env} {cb cb' : ControlBlock κ ρ} {allowed : SeqNumber → Prop}

/-- Nothing more has been sent. -/
theorem Heard.of_eq (heard : cb.Heard allowed) (same : cb'.transmitted = cb.transmitted) :
    cb'.Heard allowed := by
  rw [Heard, same]
  exact heard

/-- The headers of a connection acknowledge what has been received. -/
theorem tcpHeader_continues {header : TcpHeader} (built : cb.tcpHeader profile = .ok header) :
    header.Continues cb.receiver.receiveNext := by
  obtain ⟨size, -, built⟩ := bind_ok.mp built
  cases built
  exact ⟨rfl, rfl, rfl⟩

/-- What is emitted with such a header. -/
theorem emit_heard {header : TcpHeader} {body : Option Buffer} {remoteLinkAddr : MacAddress}
    {number : SeqNumber} (emits : cb.emit profile header body remoteLinkAddr = .ok cb')
    (continues : header.Continues number) (permitted : allowed number) (heard : cb.Heard allowed) :
    cb'.Heard allowed := by
  obtain ⟨-, -, emits⟩ := bind_ok.mp emits
  cases emits
  intro segment member
  obtain member | member := List.mem_append.mp member
  · exact heard segment member
  · obtain rfl := List.mem_singleton.mp member
    exact ⟨number, permitted, continues⟩

/-- An acknowledgement adds one segment with the number of the receiver. -/
theorem sendAck_heard (sent : cb.sendAck profile env = .ok cb')
    (permitted : allowed cb.receiver.receiveNext) (heard : cb.Heard allowed) :
    cb'.Heard allowed := by
  obtain ⟨header, built, sent⟩ := bind_ok.mp sent
  obtain ⟨noSyn, noReset, ackNum⟩ := tcpHeader_continues built
  split at sent
  · have continues : ({ header with seqNum := cb.sender.sendNext.value } : TcpHeader).Continues
        cb.receiver.receiveNext := ⟨noSyn, noReset, ackNum⟩
    exact emit_heard sent continues permitted heard
  · cases sent
    exact heard

/-- Data that is queued adds no segment. -/
theorem queueUnsent_heard (buf : Buffer) (heard : cb.Heard allowed) :
    (cb.queueUnsent buf).1.Heard allowed := by
  unfold queueUnsent
  split
  · exact heard
  · exact heard

variable [CongestionControl κ] [RtoCalculator ρ]

/-- Data that is sent at once adds one segment with the number of the receiver. -/
theorem sendImmediate_heard {buf : Buffer} {remoteLinkAddr : MacAddress}
    (sent : cb.sendImmediate profile env buf remoteLinkAddr = .ok cb')
    (permitted : allowed cb.receiver.receiveNext) (heard : cb.Heard allowed) :
    cb'.Heard allowed := by
  obtain ⟨header, built, sent⟩ := bind_ok.mp sent
  obtain ⟨emitted, emits, sent⟩ := bind_ok.mp sent
  obtain ⟨noSyn, noReset, ackNum⟩ := tcpHeader_continues built
  have kept : emitted.Heard allowed := emit_heard emits ⟨noSyn, noReset, ackNum⟩ permitted heard
  cases sent
  exact kept

/-- A send adds such a segment on its fast path, and none on the other one. -/
theorem send_heard {buf : Buffer} {result : Except Fail Unit}
    (sent : cb.send profile env buf = .ok (cb', result))
    (permitted : allowed cb.receiver.receiveNext) (heard : cb.Heard allowed) :
    cb'.Heard allowed := by
  have queues {before : ControlBlock κ ρ}
      (sent : (.ok (before.queueUnsent buf) : Checked _) = .ok (cb', result))
      (like : before.Heard allowed) : cb'.Heard allowed := by
    have same : (before.queueUnsent buf).1 = cb' := congrArg Prod.fst (Except.ok.inj sent)
    rw [← same]
    exact queueUnsent_heard buf like
  unfold send at sent
  split at sent
  · cases sent
    exact heard
  split at sent
  · cases sent
    exact heard
  split at sent
  · exact queues sent heard
  obtain ⟨inFlight, -, sent⟩ := bind_ok.mp sent
  obtain ⟨effectiveCwnd, -, sent⟩ := bind_ok.mp sent
  dsimp only at sent
  split at sent
  · split at sent
    · obtain ⟨after, immediate, sent⟩ := bind_ok.mp sent
      cases sent
      exact sendImmediate_heard immediate permitted heard
    · exact queues sent heard
  · exact queues sent heard

/-- A close adds such a segment, or none yet. -/
theorem close_heard (closed : cb.close profile env = .ok cb')
    (permitted : allowed cb.receiver.receiveNext) (heard : cb.Heard allowed) :
    cb'.Heard allowed := by
  unfold close at closed
  split at closed
  · cases closed
    exact heard
  obtain ⟨-, -, closed⟩ := bind_ok.mp closed
  obtain ⟨⟨after, result⟩, sent, closed⟩ := bind_ok.mp closed
  have kept : after.Heard allowed := send_heard sent permitted heard
  cases result with
  | error failure => cases closed
  | ok =>
    cases closed
    exact kept

omit [CongestionControl κ] [RtoCalculator ρ] in
/-- A retransmission adds such a segment. -/
theorem retransmit_heard (done : cb.retransmit profile env = .ok cb')
    (permitted : allowed cb.receiver.receiveNext) (heard : cb.Heard allowed) :
    cb'.Heard allowed := by
  unfold retransmit at done
  split at done
  · cases done
    exact heard
  dsimp only at done
  split at done
  · cases done
    exact heard
  · obtain ⟨header, built, done⟩ := bind_ok.mp done
    obtain ⟨noSyn, noReset, ackNum⟩ := tcpHeader_continues built
    exact emit_heard done ⟨noSyn, noReset, ackNum⟩ permitted heard

/-- A round of the retransmitter adds such a segment, or none. -/
theorem retransmitterRound_heard (done : cb.retransmitterRound profile env = .ok cb')
    (permitted : allowed cb.receiver.receiveNext) (heard : cb.Heard allowed) :
    cb'.Heard allowed := by
  unfold retransmitterRound at done
  split at done
  · exact retransmit_heard done permitted heard
  split at done
  · cases done
    exact heard
  split at done
  · cases done
    exact heard
  · obtain ⟨after, sent, done⟩ := bind_ok.mp done
    have kept : after.Heard allowed := retransmit_heard sent permitted heard
    cases done
    exact kept

/-! ## Arriving segments -/

omit [CongestionControl κ] [RtoCalculator ρ] in
/-- The acknowledgement at the end of a routine is of what has been received then. -/
theorem sendAck_heard_after (sent : cb.sendAck profile env = .ok cb')
    (permitted : allowed cb'.receiver.receiveNext) (heard : cb.Heard allowed) :
    cb'.Heard allowed := by
  obtain ⟨-, acks, -, seen⟩ := sendAck_ok sent
  have receiver : cb'.receiver = cb.receiver :=
    congrArg (fun view => view.reception.receiver) seen
  rw [receiver] at permitted
  exact sendAck_heard sent permitted heard

omit [CongestionControl κ] [RtoCalculator ρ] in
/-- The next segment is acknowledged with the number behind it, and what is sent for stored data
with the numbers in between. -/
theorem receiveInOrder_heard {segment : Accepted}
    (starts : segment.segStart = cb.receiver.receiveNext)
    (received : cb.receiveInOrder profile env segment = .ok cb')
    (permitted : allowed cb'.receiver.receiveNext) (heard : cb.Heard allowed) :
    cb'.Heard allowed := by
  have fin {before : ControlBlock κ ρ} (received : before.receiveFin profile env = .ok cb')
      (heard : before.Heard allowed) : cb'.Heard allowed := by
    unfold receiveFin at received
    dsimp only at received
    split at received
    · cases received
    · exact sendAck_heard_after received permitted heard
  by_cases textual : segment.data ≠ [] ∧ cb.state.receivesData = true
  · obtain ⟨joined, front, rest, taken, equation, -, seen⟩ :=
      receiveInOrder_text profile env starts textual.1 textual.2
    have joinedHeard : joined.Heard allowed :=
      heard.of_eq (congrArg View.transmitted seen)
    rw [equation] at received
    cases taken with
    | true => exact fin received joinedHeard
    | false =>
      rw [if_neg Bool.false_ne_true] at received
      unfold scheduleAck at received
      split at received
      · cases received
        exact joinedHeard
      · exact sendAck_heard_after received permitted joinedHeard
  · have none : segment.data = [] ∨ cb.state.receivesData = false := by
      rw [← Bool.not_eq_true]
      exact Decidable.not_and_iff_not_or_not.mp textual |>.imp_left Decidable.not_not.mp
    rw [receiveInOrder_no_text profile env none] at received
    split at received
    · exact fin received heard
    · cases received
      exact heard

/-- An arriving segment is answered with what was received before it or with it. -/
theorem receive_heard {header : TcpHeader} {data : Buffer}
    (received : cb.receive profile env header data = .ok cb')
    (before : allowed cb.receiver.receiveNext) (after : allowed cb'.receiver.receiveNext)
    (heard : cb.Heard allowed) : cb'.Heard allowed := by
  cases receive_passes received with
  | dropped | syn | silent => exact heard
  | answered refused sent => exact sendAck_heard sent before heard
  | reset =>
    refine heard.of_eq ?_
    unfold receiveRst disableStats
    split <;> rfl
  | @acknowledged _ acked _ _ trims quiet plain acks processed further =>
    obtain ⟨-, -, seen⟩ := processAck_ok processed
    have ackedHeard : acked.Heard allowed := heard.of_eq (congrArg View.transmitted seen)
    have receiver : acked.receiver = cb.receiver :=
      congrArg (fun view => view.reception.receiver) seen
    obtain sent | later | ⟨starts, inOrder⟩ := further
    · exact sendAck_heard_after sent after ackedHeard
    · obtain rfl | ⟨store, fin, sent⟩ := receiveOutOfOrder_frame later
      · exact ackedHeard
      · exact sendAck_heard_after sent after ackedHeard
    · exact receiveInOrder_heard starts inOrder after ackedHeard

end ControlBlock

/-! ## The sending coroutine -/

namespace SenderTask

open ControlBlock

variable {profile : Profile} {env : Env} {cb cb' : ControlBlock κ ρ} {task task' : SenderTask}
  {allowed : SeqNumber → Prop}

/-- A probe adds one segment with the number of the receiver. -/
theorem sendProbe_heard {sendNext : SeqNumber} {remoteLinkAddr : MacAddress}
    (sent : sendProbe profile env cb sendNext remoteLinkAddr = .ok (task, cb'))
    (permitted : allowed cb.receiver.receiveNext) (heard : cb.Heard allowed) :
    cb'.Heard allowed := by
  obtain ⟨popped, -, sent⟩ := bind_ok.mp sent
  cases popped with
  | none => cases sent
  | some popped =>
    obtain ⟨header, built, sent⟩ := bind_ok.mp sent
    obtain ⟨emitted, emits, sent⟩ := bind_ok.mp sent
    obtain ⟨noSyn, noReset, ackNum⟩ := tcpHeader_continues built
    have kept : emitted.Heard allowed := emit_heard emits ⟨noSyn, noReset, ackNum⟩ permitted heard
    cases sent
    exact kept

variable [CongestionControl κ] [RtoCalculator ρ]

/-- A segment of the coroutine adds one with the number of the receiver. -/
theorem sendSegment_heard {sendNext : SeqNumber} {winSz sentData effectiveCwnd : Nat}
    {remoteLinkAddr : MacAddress}
    (sent : sendSegment profile env cb sendNext winSz sentData effectiveCwnd remoteLinkAddr =
      .ok (task, cb')) (permitted : allowed cb.receiver.receiveNext) (heard : cb.Heard allowed) :
    cb'.Heard allowed := by
  obtain ⟨windowRoom, -, sent⟩ := bind_ok.mp sent
  obtain ⟨cwndRoom, -, sent⟩ := bind_ok.mp sent
  obtain ⟨popped, -, sent⟩ := bind_ok.mp sent
  cases popped with
  | none => cases sent
  | some popped =>
    obtain ⟨header, built, sent⟩ := bind_ok.mp sent
    obtain ⟨-, -, sent⟩ := bind_ok.mp sent
    obtain ⟨emitted, emits, sent⟩ := bind_ok.mp sent
    obtain ⟨noSyn, noReset, ackNum⟩ := tcpHeader_continues built
    have kept : emitted.Heard allowed := emit_heard emits ⟨noSyn, noReset, ackNum⟩ permitted heard
    cases sent
    exact kept

/-- A round of the coroutine. -/
theorem round_heard {reply : ArpReply} (done : task.round profile env reply cb = .ok (task', cb'))
    (permitted : allowed cb.receiver.receiveNext) (heard : cb.Heard allowed) :
    cb'.Heard allowed := by
  obtain ⟨seen, -⟩ | ⟨_, _, before, -, sent, like, -⟩ | ⟨_, _, _, _, _, before, sent, like, -⟩ |
    ⟨_, _, _, _, _, _, _, _, _, rfl, -, -, -⟩ := SenderTask.round_cases done
  · exact heard.of_eq (congrArg View.transmitted seen)
  · have receiver : before.receiver = cb.receiver :=
      congrArg (fun view => view.reception.receiver) like
    rw [← receiver] at permitted
    exact sendProbe_heard sent permitted (heard.of_eq (congrArg View.transmitted like))
  · have receiver : before.receiver = cb.receiver :=
      congrArg (fun view => view.reception.receiver) like
    rw [← receiver] at permitted
    exact sendSegment_heard sent permitted (heard.of_eq (congrArg View.transmitted like))
  · rw [SenderTask.round] at done
    split at done
    · cases done
      exact heard
    split at done
    · cases done
      exact heard
    obtain ⟨header, built, done⟩ := bind_ok.mp done
    obtain ⟨emitted, emits, done⟩ := bind_ok.mp done
    obtain ⟨noSyn, noReset, ackNum⟩ := tcpHeader_continues built
    have kept : emitted.Heard allowed := emit_heard emits ⟨noSyn, noReset, ackNum⟩ permitted heard
    cases done
    exact kept

end SenderTask

/-! ## Steps -/

/-- A step sends only what continues the connection, with the numbers received before it or
after it. -/
theorem Connection.step_heard [CongestionControl κ] [RtoCalculator ρ] {profile : Profile}
    {source target : Connection κ ρ} {action : Action} {allowed : SeqNumber → Prop}
    (advanced : source.step profile action = .ok target)
    (before : allowed source.cb.receiver.receiveNext)
    (after : allowed target.cb.receiver.receiveNext) (heard : source.cb.Heard allowed) :
    target.cb.Heard allowed := by
  cases action with
  | receive env header data =>
    obtain ⟨cb, received, advanced⟩ := bind_ok.mp advanced
    cases advanced
    exact ControlBlock.receive_heard received before after heard
  | pollRecv waker =>
    cases advanced
    refine heard.of_eq ?_
    simp only [ControlBlock.pollRecv]
    split <;> rfl
  | send env buf =>
    obtain ⟨⟨cb, result⟩, sent, advanced⟩ := bind_ok.mp advanced
    cases advanced
    exact ControlBlock.send_heard sent before heard
  | close env =>
    obtain ⟨cb, closed, advanced⟩ := bind_ok.mp advanced
    cases advanced
    exact ControlBlock.close_heard closed before heard
  | senderRound env reply =>
    obtain ⟨⟨task, cb⟩, done, advanced⟩ := bind_ok.mp advanced
    cases advanced
    exact SenderTask.round_heard done before heard
  | retransmitterRound env =>
    obtain ⟨cb, done, advanced⟩ := bind_ok.mp advanced
    cases advanced
    obtain ⟨-, rfl⟩ | ⟨-, done⟩ := backgroundRound_cases done
    · exact heard
    · exact ControlBlock.retransmitterRound_heard done before heard
  | acknowledgerRound env =>
    obtain ⟨cb, done, advanced⟩ := bind_ok.mp advanced
    cases advanced
    obtain ⟨-, rfl⟩ | ⟨-, done⟩ := backgroundRound_cases done
    · exact heard
    obtain rfl | sent := ControlBlock.acknowledgerRound_cases done
    · exact heard
    · exact ControlBlock.sendAck_heard sent before heard

end Capybara
