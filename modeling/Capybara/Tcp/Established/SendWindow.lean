import Capybara.Tcp.Established.UnsentAccounting

/-!
# The peer's window

Both transmit paths check the peer's window before they send new data. The fast
path of `Sender::send` and the coroutine each form a sum of what is outstanding and
what is to be sent; while outstanding and queued data stay below half the sequence
space, neither sum wraps. The coroutine then subtracts what it has compared, so its
subtractions stay within range, also after the peer has shrunk its window below
what is in flight.

With the link address at hand the coroutine does not wait between its comparison
and the transmission.
-/

namespace Capybara

variable {κ ρ : Type}

/-- Outstanding numbers and queued bytes. -/
def Sender.load (sender : Sender) : Nat := sender.outstanding + sender.unsentQueue.flatten.length

/-- Whether the coroutine waits for a link address. -/
def SenderTask.asks : SenderTask → Bool
  | .queryProbe _ | .querySend _ _ _ _ => true
  | _ => false

/-- The action is a round of the sending coroutine. -/
def Action.ofSender : Action → Bool
  | .senderRound _ _ => true
  | _ => false

/-- An arriving acknowledgement without data that announces a window. -/
def Action.announce (seqNum ackNum : Nat) (windowSize : UInt16) : Action :=
  .receive (Env.sample 0) { TcpHeader.new 4321 80 with
    seqNum := SeqNumber.ofU32 seqNum
    ackNum := SeqNumber.ofU32 ackNum
    ack := true
    windowSize } []

namespace Connection

/-- Outstanding and queued data, with what the step adds to them, stay below half the
sequence space, and the coroutine is told the link address when it asks. -/
def Resolved [CongestionControl κ] [RtoCalculator ρ] (profile : Profile) (c : Connection κ ρ) : Action → Prop
  | .send env buf => c.cb.sender.load + (accepted profile ⟨c, .send env buf, c⟩).length < 2 ^ 31
  | .senderRound _ .pending | .senderRound _ .failed => False
  | _ => c.cb.sender.load < 2 ^ 31

instance [CongestionControl κ] [RtoCalculator ρ] (profile : Profile) (c : Connection κ ρ)
    (action : Action) : Decidable (c.Resolved profile action) :=
  match action with
  | .send _ _ => inferInstanceAs (Decidable (_ < _))
  | .senderRound _ .pending | .senderRound _ .failed => inferInstanceAs (Decidable False)
  | .senderRound _ (.resolved _) | .receive _ _ _ | .pollRecv _ | .close _ | .retransmitterRound _
  | .acknowledgerRound _ => inferInstanceAs (Decidable (_ < _))

/-- The segment transmits again what was transmitted before: the buffer in front of the
unacknowledged queue with the oldest number, or the probe that the coroutine holds. -/
def Repeats (c : Connection κ ρ) (segment : TcpSegment) (bytes : Buffer) : Prop :=
  (c.cb.sender.unackedBuffers.head? = some bytes ∧
    segment.tcpHdr.seqNum = c.cb.sender.sendUnacked.value) ∨
  ∃ remoteLinkAddr windowChanges timeout deadline, c.task =
    .persist segment.tcpHdr.seqNum bytes remoteLinkAddr windowChanges timeout deadline

/-- The step transmits the segment, which carries data and is no repetition. -/
structure NewData (transition : Transition κ ρ) (segment : TcpSegment) (bytes : Buffer) : Prop where
  sent : segment ∈
    transition.target.cb.transmitted.drop transition.source.cb.transmitted.length
  body : segment.data = some bytes
  data : bytes ≠ []
  first : ¬ transition.source.Repeats segment bytes

/-- The segment of new data is the one the step is known to transmit. -/
theorem NewData.carried {transition : Transition κ ρ} {segment segment' : TcpSegment}
    {bytes buf : Buffer} {seqNum : SeqNumber} {fin : Bool}
    (new : NewData transition segment' bytes)
    (record : transition.target.cb.transmitted = transition.source.cb.transmitted ++ [segment])
    (carries : Carries segment seqNum buf fin) :
    segment'.tcpHdr.seqNum = seqNum ∧ bytes = buf := by
  have sent := new.sent
  rw [record, List.drop_left] at sent
  obtain rfl := List.mem_singleton.mp sent
  cases carries.body.symm.trans new.body
  exact ⟨carries.seqNum, rfl⟩

/-- The values from which the coroutine goes on to form a packet: those it has just
compared, or those it kept while it waited for the link address. -/
def Forms (profile : Profile) (c : Connection κ ρ) (sendNext : SeqNumber)
    (winSz sentData effectiveCwnd : Nat) : Prop :=
  let query := SenderTask.querySend sendNext winSz sentData effectiveCwnd
  c.task = query ∨ (c.task = .top ∧ SenderTask.Captured profile c.cb query)

end Connection

namespace SenderTask

/-- What the coroutine compares, without wrapping. -/
theorem Captured.room {profile : Profile} {cb : ControlBlock κ ρ} {sendNext : SeqNumber}
    {winSz sentData effectiveCwnd : Nat} (light : cb.sender.load < 2 ^ 31)
    (captured : Captured profile cb (.querySend sendNext winSz sentData effectiveCwnd)) :
    winSz = cb.sender.sendWindow.value.toNat ∧ sentData = cb.sender.outstanding ∧
    sendNext = cb.sender.sendNext.value ∧ sentData < winSz ∧ sentData < effectiveCwnd := by
  cases captured with
  | @send front rest needed effectiveCwnd unsent queue sum windowRoom cwndRoom =>
    refine ⟨rfl, rfl, rfl, ?_, cwndRoom⟩
    have length : front.length ≤ cb.sender.unsentQueue.flatten.length := by
      rw [queue]
      simp
    unfold Sender.load Sender.outstanding at light
    rw [SeqNumber.toU32_sub, asU32_of_lt (by omega), addU32_of_lt profile (by omega)] at sum
    cases sum
    rw [SeqNumber.toU32_sub]
    omega

/-- Told the link address, the coroutine does not wait for it. -/
theorem round_awake [CongestionControl κ] [RtoCalculator ρ] {profile : Profile} {env : Env}
    {linkAddr : MacAddress} {task task' : SenderTask} {cb cb' : ControlBlock κ ρ}
    (round : task.round profile env (.resolved linkAddr) cb = .ok (task', cb')) :
    task'.asks = false := by
  have probe {before : ControlBlock κ ρ} {sendNext : SeqNumber}
      (sent : sendProbe profile env before sendNext linkAddr = .ok (task', cb')) :
      task'.asks = false := by
    obtain ⟨_, _, _, _, _, -, rfl, -⟩ := sendProbe_ok sent
    rfl
  have normal {before : ControlBlock κ ρ} {sendNext : SeqNumber} {winSz sentData effectiveCwnd : Nat}
      (sent : sendSegment profile env before sendNext winSz sentData effectiveCwnd linkAddr =
        .ok (task', cb')) : task'.asks = false := by
    obtain ⟨_, _, _, _, _, -, -, -, rfl, -⟩ := sendSegment_ok sent
    rfl
  cases task with
  | top =>
    rw [SenderTask.round] at round
    unfold fromTop at round
    dsimp only at round
    split at round
    · cases round
      rfl
    split at round
    · exact probe round
    obtain ⟨_, -, round⟩ := bind_ok.mp round
    split at round
    · cases round
    obtain ⟨_, -, round⟩ := bind_ok.mp round
    split at round
    · cases round
      rfl
    · exact normal round
  | idle | blocked =>
    rw [SenderTask.round] at round
    split at round <;> cases round <;> rfl
  | queryProbe sendNext => exact probe round
  | persist =>
    rw [SenderTask.round] at round
    split at round
    · cases round
      rfl
    split at round
    · cases round
      rfl
    obtain ⟨_, -, round⟩ := bind_ok.mp round
    obtain ⟨_, -, round⟩ := bind_ok.mp round
    cases round
    rfl
  | querySend => exact normal round
  | returned =>
    cases round
    rfl

end SenderTask

namespace Connection

/-- New data ends in the peer's window. The one exception is a single byte with which the
coroutine probes a closed window. -/
def Respects (transition : Transition κ ρ) : Prop :=
  let sender := transition.source.cb.sender
  ∀ segment bytes, NewData transition segment bytes →
    sender.sendUnacked.value.ahead segment.tcpHdr.seqNum + bytes.length ≤
      sender.sendWindow.value.toNat ∨
    (sender.sendWindow.value = 0 ∧ bytes.length = 1 ∧ transition.action.ofSender = true)

/-- A step that transmits nothing has nothing to respect. -/
theorem respects_of_quiet {source target : Connection κ ρ} {action : Action}
    (same : target.cb.transmitted = source.cb.transmitted) :
    Respects ⟨source, action, target⟩ := by
  intro segment bytes new
  have sent := new.sent
  rw [same, List.drop_length] at sent
  cases sent

/-- A step that transmits pure acknowledgements has nothing to respect. -/
theorem respects_of_acks {source target : Connection κ ρ} {action : Action}
    (sent : ∃ acks, PureAcks acks ∧ target.cb.transmitted = source.cb.transmitted ++ acks) :
    Respects ⟨source, action, target⟩ := by
  intro segment bytes new
  obtain ⟨acks, pure, record⟩ := sent
  have sent := new.sent
  rw [record, List.drop_left] at sent
  cases (pure segment sent).1.symm.trans new.body

/-- A step that repeats what was transmitted before has nothing to respect. -/
theorem respects_of_repeated {source target : Connection κ ρ} {action : Action}
    {segment : TcpSegment} {seqNum : SeqNumber} {buf : Buffer} {fin : Bool}
    (record : target.cb.transmitted = source.cb.transmitted ++ [segment])
    (carries : Carries segment seqNum buf fin) (repeats : source.Repeats segment buf) :
    Respects ⟨source, action, target⟩ := by
  intro segment' bytes new
  have sent := new.sent
  rw [record, List.drop_left] at sent
  obtain rfl := List.mem_singleton.mp sent
  obtain ⟨-, rfl⟩ := new.carried record carries
  exact absurd repeats new.first

variable [CongestionControl κ] [RtoCalculator ρ] {profile : Profile}

/-- The fast path of `send` keeps to the window. -/
theorem send_respects {source target : Connection κ ρ} {env : Env} {buf : Buffer}
    (light : source.Resolved profile (.send env buf))
    (advanced : source.step profile (.send env buf) = .ok target) :
    Respects ⟨source, .send env buf, target⟩ := by
  obtain ⟨⟨cb, result⟩, sent, advanced⟩ := bind_ok.mp advanced
  cases advanced
  obtain ⟨-, -, seen⟩ | ⟨-, -, -, seen⟩ | ⟨-, path, rfl, segment, carries, seen⟩ :=
    ControlBlock.send_cases sent
  · exact respects_of_quiet (congrArg View.transmitted seen)
  · exact respects_of_quiet (congrArg View.transmitted seen)
  intro segment' bytes new
  left
  obtain ⟨number, rfl⟩ := new.carried (congrArg View.transmitted seen) carries
  have own : accepted profile ⟨source, .send env bytes, source⟩ = bytes := by
    simp only [accepted, sent]
  have room := path.2.2.2.1
  change source.cb.sender.load + _ < _ at light
  rw [own, Sender.load, Sender.outstanding] at light
  rw [SeqNumber.toU32_sub, Nat.mod_eq_of_lt (by omega)] at room
  rw [number]
  exact room

/-- A coroutine that does not wait for a link address keeps to the window, and is told
the address before it would have to wait. -/
theorem round_respects {source target : Connection κ ρ} {env : Env} {linkAddr : MacAddress}
    (light : source.cb.sender.load < 2 ^ 31) (runs : source.task.asks = false)
    (advanced : source.step profile (.senderRound env (.resolved linkAddr)) = .ok target) :
    Respects ⟨source, .senderRound env (.resolved linkAddr), target⟩ ∧ target.task.asks = false := by
  obtain ⟨⟨task, cb⟩, round, advanced⟩ := bind_ok.mp advanced
  cases advanced
  refine ⟨?_, SenderTask.round_awake round⟩
  obtain ⟨seen, -⟩ | ⟨_, _, before, -, sent, like, asked⟩ |
    ⟨sendNext, winSz, sentData, effectiveCwnd, _, before, sent, like, asked⟩ |
    ⟨_, _, _, _, _, _, _, _, segment, holds, -, carries, seen⟩ := SenderTask.round_cases round
  · exact respects_of_quiet (congrArg View.transmitted seen)
  · intro segment bytes new
    rcases asked with waits | ⟨-, captured⟩
    · rw [waits] at runs
      cases runs
    · cases captured with
      | probe unsent closed =>
        obtain ⟨byte, _, _, segment, _, -, -, carries, seen⟩ := SenderTask.sendProbe_ok sent
        have earlier : before.transmitted = source.cb.transmitted := congrArg View.transmitted like
        have record : cb.transmitted = source.cb.transmitted ++ [segment] := by
          rw [← earlier]
          exact congrArg View.transmitted seen
        obtain ⟨-, rfl⟩ := new.carried record carries
        exact .inr ⟨UInt32.toNat_inj.mp (closed.trans rfl), rfl, rfl⟩
  · rcases asked with waits | captured
    · rw [waits] at runs
      cases runs
    intro segment' bytes new
    left
    obtain ⟨rfl, rfl, rfl, windowRoom, cwndRoom⟩ := captured.room light
    obtain ⟨_, _, front, rest, segment, windowRooms, cwndRooms, queue, -, carries, seen⟩ :=
      SenderTask.sendSegment_ok sent
    rw [subU32_of_le profile (Nat.le_of_lt windowRoom)] at windowRooms
    cases windowRooms
    have earlier : before.transmitted = source.cb.transmitted := congrArg View.transmitted like
    have record : cb.transmitted = source.cb.transmitted ++ [segment] := by
      rw [← earlier]
      exact congrArg View.transmitted seen
    obtain ⟨number, rfl⟩ := new.carried record carries
    rw [number, List.length_take]
    change source.cb.sender.outstanding + _ ≤ source.cb.sender.sendWindow.value.toNat
    omega
  · obtain rfl := carries.seqNum
    exact respects_of_repeated (congrArg View.transmitted seen) carries (.inr ⟨_, _, _, _, holds⟩)

/-- The retransmitter transmits nothing but the buffer in front of the unacknowledged queue. -/
theorem retransmitter_respects {source target : Connection κ ρ} {env : Env} {action : Action}
    (done : source.cb.retransmitterRound profile env = .ok target.cb) :
    Respects ⟨source, action, target⟩ := by
  obtain seen | ⟨before, after, sent, like, like'⟩ := ControlBlock.retransmitterRound_cases done
  · exact respects_of_quiet (congrArg View.transmitted seen)
  have earlier : before.transmitted = source.cb.transmitted := congrArg View.transmitted like
  have later : after.transmitted = target.cb.transmitted := congrArg View.transmitted like'
  have sender : before.sender = source.cb.sender := congrArg View.sender like
  obtain rfl | ⟨front, rest, queue, seen | ⟨segment, carries, seen⟩⟩ :=
    ControlBlock.retransmit_cases sent
  · exact respects_of_quiet (later.symm.trans earlier)
  · exact respects_of_quiet
      (later.symm.trans ((congrArg View.transmitted seen).trans earlier))
  · have record : target.cb.transmitted = source.cb.transmitted ++ [segment] := by
      rw [← later, ← earlier]
      exact congrArg View.transmitted seen
    refine respects_of_repeated record carries (.inl ⟨?_, ?_⟩)
    · rw [Sender.unackedBuffers, ← sender, queue, List.map_cons, List.head?_cons]
    · rw [carries.seqNum, sender]

/-- One step keeps to the window. -/
theorem step_respects {source target : Connection κ ρ} {action : Action}
    (light : source.Resolved profile action) (runs : source.task.asks = false)
    (advanced : source.step profile action = .ok target) :
    Respects ⟨source, action, target⟩ ∧ target.task.asks = false := by
  cases action with
  | receive env header data =>
    obtain ⟨cb, received, advanced⟩ := bind_ok.mp advanced
    cases advanced
    exact ⟨respects_of_acks (ControlBlock.receive_acks received).1, runs⟩
  | pollRecv waker =>
    cases advanced
    refine ⟨respects_of_quiet ?_, runs⟩
    simp only [ControlBlock.pollRecv]
    split <;> rfl
  | send env buf =>
    refine ⟨send_respects light advanced, ?_⟩
    obtain ⟨_, -, advanced⟩ := bind_ok.mp advanced
    cases advanced
    exact runs
  | close env =>
    obtain ⟨cb, closed, advanced⟩ := bind_ok.mp advanced
    cases advanced
    refine ⟨?_, runs⟩
    obtain ⟨-, rfl⟩ | ⟨-, -, seen⟩ | ⟨-, -, segment, carries, seen⟩ := ControlBlock.close_cases closed
    · exact respects_of_quiet rfl
    · exact respects_of_quiet (congrArg View.transmitted seen)
    · intro segment' bytes new
      exact absurd (new.carried (congrArg View.transmitted seen) carries).2 new.data
  | senderRound env reply =>
    cases reply with
    | pending | failed => cases light
    | resolved linkAddr => exact round_respects light runs advanced
  | retransmitterRound env =>
    obtain ⟨cb, done, advanced⟩ := bind_ok.mp advanced
    cases advanced
    refine ⟨?_, runs⟩
    obtain ⟨-, rfl⟩ | ⟨-, done⟩ := backgroundRound_cases done
    · exact respects_of_quiet rfl
    · exact retransmitter_respects done
  | acknowledgerRound env =>
    obtain ⟨cb, done, advanced⟩ := bind_ok.mp advanced
    cases advanced
    refine ⟨?_, runs⟩
    obtain ⟨-, rfl⟩ | ⟨-, done⟩ := backgroundRound_cases done
    · exact respects_of_quiet rfl
    obtain rfl | sent := ControlBlock.acknowledgerRound_cases done
    · exact respects_of_quiet rfl
    · exact respects_of_acks (ControlBlock.sendAck_onlyAcks sent).acks

/-- A connection whose peer numbers its bytes from 2000 on, after our own numbers. -/
def sampleAhead : Connection NoCongestionControl IntegerRto :=
  new { NewConnection.sample 1000 20 536 with receiverSeqNo := SeqNumber.ofU32 2000 }

end Connection

end Capybara
