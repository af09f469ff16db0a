import Capybara.Tcp.Established.Headers

/-!
# Delayed acknowledgements

A control block may hold back the acknowledgement of one segment for a while. What is owed
is read off the run: the times at which text was taken since the last transmission, for
every segment that is sent carries an acknowledgement.

The routines are followed once, through the four fields that matter. A routine that only
sends is silent or speaks once (`Speaks`); a step of the connection does that, takes text
and holds its acknowledgement back, or lets the application read (`Step`).
-/

namespace Capybara

open Runs

variable {κ ρ : Type}

/-- The part of a control block that acknowledges. -/
structure AckState where
  receiver : Receiver
  transmitted : List TcpSegment
  ackDeadline : Option Instant
  ackDelayTimeout : Duration

namespace AckState

/-- A segment that acknowledges everything received has been sent. -/
def spoken (state : AckState) (segment : TcpSegment) : AckState :=
  { state with transmitted := state.transmitted ++ [segment], ackDeadline := none }

/-- Nothing happens, or one segment is sent and acknowledges everything received. -/
inductive Speaks (before : AckState) : AckState → Prop where
  | silent : Speaks before before
  | spoken (segment : TcpSegment)
      (number : segment.tcpHdr.ackNum = before.receiver.receiveNext) :
      Speaks before (before.spoken segment)

/-- What a step can do. -/
inductive Step (now : Instant) (before : AckState) : AckState → Prop where
  /-- The application reads, or nothing happens. -/
  | reads (receiver : Receiver) (next : receiver.receiveNext = before.receiver.receiveNext)
      (queue : receiver.recvQueue.length ≤ before.receiver.recvQueue.length) :
      Step now before { before with receiver }
  /-- Something may be received, and a segment that acknowledges it is sent. -/
  | acknowledges (receiver : Receiver) (segment : TcpSegment)
      (number : segment.tcpHdr.ackNum = receiver.receiveNext) :
      Step now before ({ before with receiver }.spoken segment)
  /-- Text is received while nothing is owed, and its acknowledgement held back. -/
  | defers (receiver : Receiver)
      (grown : before.receiver.recvQueue.length < receiver.recvQueue.length)
      (idle : before.ackDeadline = none) :
      Step now before { before with
        receiver, ackDeadline := some (now + before.ackDelayTimeout) }

/-- What says an acknowledgement or nothing is a step at any time. -/
theorem Speaks.step {before after : AckState} (speaks : before.Speaks after) (now : Instant) :
    before.Step now after := by
  cases speaks with
  | silent => exact .reads before.receiver rfl (Nat.le_refl _)
  | spoken segment number => exact .acknowledges before.receiver segment number

end AckState

namespace ControlBlock

/-- The part of a control block that acknowledges. -/
def ackState (cb : ControlBlock κ ρ) : AckState where
  receiver := cb.receiver
  transmitted := cb.transmitted
  ackDeadline := cb.ackDeadline
  ackDelayTimeout := cb.ackDelayTimeout

variable {profile : Profile} {env : Env} {cb cb' before : ControlBlock κ ρ} {header : TcpHeader}
  {data : Buffer} {segment : Accepted}

/-! ## Routines that only send -/

/-- A segment with the number of the receiver says what it expects next. -/
theorem emit_spoken {body : Option Buffer} {remoteLinkAddr : MacAddress}
    (emits : cb.emit profile header body remoteLinkAddr = .ok cb')
    (number : header.ackNum = cb.receiver.receiveNext) :
    ∃ segment : TcpSegment, segment.tcpHdr.ackNum = cb.receiver.receiveNext ∧
      cb'.ackState = cb.ackState.spoken segment := by
  obtain ⟨-, -, emits⟩ := bind_ok.mp emits
  cases emits
  exact ⟨_, number, rfl⟩

/-- Sending such a segment says an acknowledgement. -/
theorem emit_speaks {body : Option Buffer} {remoteLinkAddr : MacAddress}
    (emits : cb.emit profile header body remoteLinkAddr = .ok cb')
    (number : header.ackNum = cb.receiver.receiveNext) : cb.ackState.Speaks cb'.ackState := by
  obtain ⟨segment, acks, spoken⟩ := emit_spoken emits number
  rw [spoken]
  exact .spoken segment acks

/-- An acknowledgement on its own goes out if the link address is known. -/
theorem sendAck_spoken {remoteLinkAddr : MacAddress} (known : env.linkAddr = some remoteLinkAddr)
    (sent : cb.sendAck profile env = .ok cb') :
    ∃ segment : TcpSegment, segment.tcpHdr.ackNum = cb.receiver.receiveNext ∧
      cb'.ackState = cb.ackState.spoken segment := by
  obtain ⟨header, built, sent⟩ := bind_ok.mp sent
  rw [known] at sent
  exact emit_spoken sent (tcpHeader_continues built).ackNum

/-- An acknowledgement says what the receiver expects next. -/
theorem sendAck_speaks (sent : cb.sendAck profile env = .ok cb') :
    cb.ackState.Speaks cb'.ackState := by
  cases known : env.linkAddr with
  | some remoteLinkAddr =>
    obtain ⟨segment, number, spoken⟩ := sendAck_spoken known sent
    rw [spoken]
    exact .spoken segment number
  | none =>
    obtain ⟨header, -, sent⟩ := bind_ok.mp sent
    rw [known] at sent
    cases sent
    exact .silent

/-- A retransmission carries an acknowledgement, too. -/
theorem retransmit_speaks (done : cb.retransmit profile env = .ok cb') :
    cb.ackState.Speaks cb'.ackState := by
  unfold retransmit at done
  split at done
  · cases done
    exact .silent
  dsimp only at done
  split at done
  · cases done
    exact .silent
  · obtain ⟨header, built, done⟩ := bind_ok.mp done
    have speaks := emit_speaks done (tcpHeader_continues built).ackNum
    exact speaks

/-- A round of the acknowledger says an acknowledgement or nothing. -/
theorem acknowledgerRound_speaks (done : cb.acknowledgerRound profile env = .ok cb') :
    cb.ackState.Speaks cb'.ackState := by
  obtain rfl | sent := acknowledgerRound_cases done
  · exact .silent
  · exact sendAck_speaks sent

/-- Data that is queued says nothing and changes no deadline. -/
theorem queueUnsent_silent (cb : ControlBlock κ ρ) (buf : Buffer) :
    (cb.queueUnsent buf).1.ackState = cb.ackState := by
  unfold queueUnsent
  split <;> rfl

/-- An application that reads receives nothing. -/
theorem pollRecv_step (waker : Waker) (cb : ControlBlock κ ρ) (now : Instant) :
    cb.ackState.Step now (cb.pollRecv waker).1.ackState := by
  unfold pollRecv
  split
  · exact .reads cb.receiver rfl (Nat.le_refl _)
  · rename_i buf receiver popped
    unfold Receiver.pop at popped
    split at popped
    · cases popped
    · rename_i front rest queue
      cases popped
      refine .reads _ rfl ?_
      rw [ackState, queue]
      exact Nat.le_succ _

variable [CongestionControl κ] [RtoCalculator ρ]

/-- Data that is sent at once carries an acknowledgement. -/
theorem sendImmediate_speaks {buf : Buffer} {remoteLinkAddr : MacAddress}
    (sent : cb.sendImmediate profile env buf remoteLinkAddr = .ok cb') :
    cb.ackState.Speaks cb'.ackState := by
  obtain ⟨header, built, sent⟩ := bind_ok.mp sent
  obtain ⟨emitted, emits, sent⟩ := bind_ok.mp sent
  have speaks := emit_speaks emits (tcpHeader_continues built).ackNum
  cases sent
  exact speaks

/-- A send says an acknowledgement on its fast path and nothing on the other one. -/
theorem send_speaks {buf : Buffer} {result : Except Fail Unit}
    (sent : cb.send profile env buf = .ok (cb', result)) : cb.ackState.Speaks cb'.ackState := by
  have queues {middle : ControlBlock κ ρ} (like : middle.ackState = cb.ackState)
      (sent : (.ok (middle.queueUnsent buf) : Checked _) = .ok (cb', result)) :
      cb.ackState.Speaks cb'.ackState := by
    have same : (middle.queueUnsent buf).1 = cb' := congrArg Prod.fst (Except.ok.inj sent)
    rw [← same, queueUnsent_silent, like]
    exact .silent
  unfold send at sent
  split at sent
  · cases sent
    exact .silent
  split at sent
  · cases sent
    exact .silent
  split at sent
  · exact queues rfl sent
  obtain ⟨inFlight, -, sent⟩ := bind_ok.mp sent
  obtain ⟨effectiveCwnd, -, sent⟩ := bind_ok.mp sent
  dsimp only at sent
  split at sent
  · split at sent
    · obtain ⟨after, immediate, sent⟩ := bind_ok.mp sent
      cases sent
      have speaks := sendImmediate_speaks immediate
      exact speaks
    · exact queues (by rfl) sent
  · exact queues (by rfl) sent

/-- A close says an acknowledgement with its FIN, or nothing yet. -/
theorem close_speaks (closed : cb.close profile env = .ok cb') :
    cb.ackState.Speaks cb'.ackState := by
  unfold close at closed
  split at closed
  · cases closed
    exact .silent
  obtain ⟨-, -, closed⟩ := bind_ok.mp closed
  obtain ⟨⟨after, result⟩, sent, closed⟩ := bind_ok.mp closed
  have speaks := send_speaks sent
  cases result with
  | error failure => cases closed
  | ok =>
    cases closed
    exact speaks

/-- A round of the retransmitter says an acknowledgement or nothing. -/
theorem retransmitterRound_speaks (done : cb.retransmitterRound profile env = .ok cb') :
    cb.ackState.Speaks cb'.ackState := by
  unfold retransmitterRound at done
  split at done
  · have speaks := retransmit_speaks done
    exact speaks
  split at done
  · cases done
    exact .silent
  split at done
  · cases done
    exact .silent
  · obtain ⟨after, sent, done⟩ := bind_ok.mp done
    have speaks := retransmit_speaks sent
    cases done
    exact speaks

end ControlBlock

namespace SenderTask

open ControlBlock

variable {profile : Profile} {env : Env} {reply : ArpReply} {cb cb' : ControlBlock κ ρ}
  {task task' : SenderTask}

/-- A probe carries an acknowledgement. -/
theorem sendProbe_speaks {sendNext : SeqNumber} {remoteLinkAddr : MacAddress}
    (sent : sendProbe profile env cb sendNext remoteLinkAddr = .ok (task, cb')) :
    cb.ackState.Speaks cb'.ackState := by
  obtain ⟨popped, -, sent⟩ := bind_ok.mp sent
  cases popped with
  | none => cases sent
  | some popped =>
    obtain ⟨header, built, sent⟩ := bind_ok.mp sent
    obtain ⟨emitted, emits, sent⟩ := bind_ok.mp sent
    have speaks := emit_speaks emits (tcpHeader_continues built).ackNum
    cases sent
    exact speaks

variable [CongestionControl κ] [RtoCalculator ρ]

/-- A segment of the coroutine carries an acknowledgement. -/
theorem sendSegment_speaks {sendNext : SeqNumber} {winSz sentData effectiveCwnd : Nat}
    {remoteLinkAddr : MacAddress}
    (sent : sendSegment profile env cb sendNext winSz sentData effectiveCwnd remoteLinkAddr =
      .ok (task, cb')) : cb.ackState.Speaks cb'.ackState := by
  obtain ⟨windowRoom, -, sent⟩ := bind_ok.mp sent
  obtain ⟨cwndRoom, -, sent⟩ := bind_ok.mp sent
  obtain ⟨popped, -, sent⟩ := bind_ok.mp sent
  cases popped with
  | none => cases sent
  | some popped =>
    obtain ⟨header, built, sent⟩ := bind_ok.mp sent
    obtain ⟨-, -, sent⟩ := bind_ok.mp sent
    obtain ⟨emitted, emits, sent⟩ := bind_ok.mp sent
    have speaks := emit_speaks emits (tcpHeader_continues built).ackNum
    cases sent
    exact speaks

/-- A turn of the coroutine says an acknowledgement or nothing. -/
theorem fromTop_speaks (done : fromTop profile env reply cb = .ok (task, cb')) :
    cb.ackState.Speaks cb'.ackState := by
  unfold fromTop at done
  dsimp only at done
  split at done
  · cases done
    exact .silent
  split at done
  · cases reply with
    | pending | failed =>
      cases done
      exact .silent
    | resolved remoteLinkAddr => exact sendProbe_speaks done
  obtain ⟨effectiveCwnd, -, done⟩ := bind_ok.mp done
  split at done
  · cases done
  obtain ⟨needed, -, done⟩ := bind_ok.mp done
  split at done
  · cases done
    exact .silent
  · cases reply with
    | pending | failed =>
      cases done
      exact .silent
    | resolved remoteLinkAddr =>
      have speaks := sendSegment_speaks done
      exact speaks

/-- A round of the coroutine sends one segment at most. -/
theorem round_speaks (done : task.round profile env reply cb = .ok (task', cb')) :
    cb.ackState.Speaks cb'.ackState := by
  cases task with
  | top => exact fromTop_speaks done
  | idle | blocked =>
    simp only [round] at done
    split at done <;> cases done <;> exact .silent
  | queryProbe =>
    cases reply with
    | pending | failed =>
      cases done
      exact .silent
    | resolved => exact sendProbe_speaks done
  | querySend =>
    cases reply with
    | pending | failed =>
      cases done
      exact .silent
    | resolved => exact sendSegment_speaks done
  | persist =>
    simp only [round] at done
    split at done
    · cases done
      exact .silent
    split at done
    · cases done
      exact .silent
    · obtain ⟨header, built, done⟩ := bind_ok.mp done
      obtain ⟨emitted, emits, done⟩ := bind_ok.mp done
      have speaks := emit_speaks emits (tcpHeader_continues built).ackNum
      cases done
      exact speaks
  | returned =>
    cases done
    exact .silent

end SenderTask

/-! ## Arriving segments -/

namespace ControlBlock

variable {profile : Profile} {env : Env} {cb cb' : ControlBlock κ ρ} {header : TcpHeader}
  {data : Buffer} {segment : Accepted} {remoteLinkAddr : MacAddress}

/-- Joining text lengthens the queue of what can be read and sends nothing. -/
theorem receiveData_grows {start : SeqNumber} {buf : Buffer} {fin : Bool}
    (joins : cb.receiveData profile start buf = .ok (cb', fin)) :
    cb'.ackState = { cb.ackState with receiver := cb'.receiver } ∧
      cb.receiver.recvQueue.length < cb'.receiver.recvQueue.length := by
  obtain ⟨-, inOrder, joins⟩ := bind_ok.mp joins
  cases joins
  obtain ⟨front, rest, -, -, -, recovered⟩ := recoverStored_spec cb.outOfOrder
    (cb.receiver.receiveNext + SeqNumber.ofU32 (asU32 buf.length)) (cb.receiver.push buf)
  refine ⟨rfl, ?_⟩
  change cb.receiver.recvQueue.length < (recoverStored cb.outOfOrder
    (cb.receiver.receiveNext + SeqNumber.ofU32 (asU32 buf.length))
    (cb.receiver.push buf)).1.recvQueue.length
  rw [recovered]
  simp only [Receiver.push, List.length_append, List.length_singleton]
  omega

/-- The acknowledgement of text is held back, or sent together with the one that was. -/
theorem scheduleAck_step (known : env.linkAddr = some remoteLinkAddr) {text : ControlBlock κ ρ}
    (same : text.ackState = { cb.ackState with receiver := text.receiver })
    (grown : cb.receiver.recvQueue.length < text.receiver.recvQueue.length)
    (scheduled : text.scheduleAck profile env = .ok cb') :
    cb.ackState.Step env.now cb'.ackState := by
  have deadline : text.ackDeadline = cb.ackDeadline := congrArg AckState.ackDeadline same
  unfold scheduleAck at scheduled
  split at scheduled
  · rename_i idle
    cases scheduled
    have held : ({ text with ackDeadline := some (env.now + text.ackDelayTimeout) } :
        ControlBlock κ ρ).ackState = { cb.ackState with
          receiver := text.receiver
          ackDeadline := some (env.now + cb.ackState.ackDelayTimeout) } :=
      congrArg (fun state : AckState => { state with
        ackDeadline := some (env.now + state.ackDelayTimeout) }) same
    rw [held]
    exact .defers text.receiver grown (deadline.symm.trans idle)
  · obtain ⟨answer, number, spoken⟩ := sendAck_spoken known scheduled
    have sent : cb'.ackState = ({ cb.ackState with receiver := text.receiver }).spoken answer :=
      spoken.trans
        (congrArg (fun state => AckState.spoken { state with ackDeadline := none } answer) same)
    rw [sent]
    exact .acknowledges text.receiver answer number

/-- A FIN is acknowledged at once, with the text before it. -/
theorem receiveFin_step (known : env.linkAddr = some remoteLinkAddr) {text : ControlBlock κ ρ}
    (same : text.ackState = { cb.ackState with receiver := text.receiver })
    (received : text.receiveFin profile env = .ok cb') : cb.ackState.Step env.now cb'.ackState := by
  unfold receiveFin at received
  dsimp only at received
  split at received
  · cases received
  · obtain ⟨answer, number, spoken⟩ := sendAck_spoken known received
    have sent : cb'.ackState = ({ cb.ackState with receiver := { text.receiver with
        receiveNext := text.receiver.receiveNext + SeqNumber.ofU32 1 } }).spoken answer :=
      spoken.trans (congrArg (fun state : AckState => AckState.spoken { state with
        receiver := { text.receiver with
          receiveNext := text.receiver.receiveNext + SeqNumber.ofU32 1 } } answer) same)
    rw [sent]
    exact .acknowledges _ answer number

/-- Text in order and its FIN. -/
theorem receiveInOrder_step (known : env.linkAddr = some remoteLinkAddr)
    (received : cb.receiveInOrder profile env segment = .ok cb') :
    cb.ackState.Step env.now cb'.ackState := by
  obtain ⟨⟨text, fin⟩, textual, received⟩ := bind_ok.mp received
  dsimp only at received
  split at textual
  · obtain ⟨⟨joined, remembered⟩, joins, textual⟩ := bind_ok.mp textual
    obtain ⟨same, grown⟩ := receiveData_grows joins
    cases textual
    split at received
    · exact receiveFin_step known same received
    · exact scheduleAck_step known same grown received
  · cases textual
    split at received
    · exact receiveFin_step known rfl received
    · cases received
      exact AckState.Speaks.silent.step env.now

variable [CongestionControl κ] [RtoCalculator ρ]

/-- The ACK section of `receive` changes nothing here. -/
theorem processAck_silent {proceed : Bool}
    (processed : cb.processAck profile env header = .ok (cb', proceed)) :
    cb'.ackState = cb.ackState := by
  unfold processAck at processed
  dsimp only at processed
  split at processed
  · split at processed
    · obtain ⟨⟨unackedQueue, rto⟩, -, processed⟩ := bind_ok.mp processed
      obtain ⟨sender, updated, processed⟩ := bind_ok.mp processed
      dsimp only at processed
      split at processed <;> cases processed <;> rfl
    · cases processed
      rfl
  · cases processed
    rfl

/-- An arriving segment, when the link address of the peer is known. -/
theorem receive_step (known : env.linkAddr = some remoteLinkAddr)
    (received : cb.receive profile env header data = .ok cb') :
    cb.ackState.Step env.now cb'.ackState := by
  cases receive_passes received with
  | dropped | silent | syn => exact AckState.Speaks.silent.step env.now
  | answered refused sent => exact (sendAck_speaks sent).step env.now
  | reset =>
    have same : cb.receiveRst.ackState = cb.ackState := by
      unfold receiveRst
      split <;> rfl
    rw [same]
    exact AckState.Speaks.silent.step env.now
  | @acknowledged _ acked _ _ trims quiet plain acks processed further =>
    rw [← processAck_silent processed]
    obtain sent | later | ⟨starts, inOrder⟩ := further
    · exact (sendAck_speaks sent).step env.now
    · obtain rfl | ⟨store, fin, sent⟩ := receiveOutOfOrder_frame later
      · exact AckState.Speaks.silent.step env.now
      · have speaks := sendAck_speaks sent
        exact AckState.Speaks.step speaks env.now
    · exact receiveInOrder_step known inOrder

end ControlBlock

/-! ## Runs -/

/-- The time that an action is given. Reading needs none. -/
def Action.now : Action → Instant
  | .receive env _ _ | .send env _ | .close env | .senderRound env _ => env.now
  | .retransmitterRound env | .acknowledgerRound env => env.now
  | .pollRecv _ => 0

/-- The number that the last segment acknowledged; the handshake acknowledged the first one. -/
def ControlBlock.lastAcked (initial : SeqNumber) (cb : ControlBlock κ ρ) : SeqNumber :=
  (cb.transmitted.getLast?.map fun segment => segment.tcpHdr.ackNum).getD initial

namespace Connection

/-- The link address of the peer is known when a segment arrives. -/
def Answerable (_ : Connection κ ρ) : Action → Prop
  | .receive env _ _ => env.linkAddr.isSome = true
  | _ => True

instance (c : Connection κ ρ) (action : Action) : Decidable (c.Answerable action) :=
  match action with
  | .receive _ _ _ => inferInstanceAs (Decidable (_ = _))
  | .pollRecv _ | .send _ _ | .close _ | .senderRound _ _ | .retransmitterRound _
  | .acknowledgerRound _ => .isTrue trivial

/-- A step that sends something. -/
def speaks (transition : Transition κ ρ) : Bool :=
  transition.source.cb.transmitted.length < transition.target.cb.transmitted.length

/-- A step that makes text ready to be read. -/
def takesText (transition : Transition κ ρ) : Bool :=
  transition.source.cb.receiver.recvQueue.length < transition.target.cb.receiver.recvQueue.length

/-- The times of the steps that have taken text and have not been acknowledged. -/
def owed : List (Transition κ ρ) → List Instant
  | [] => []
  | transition :: past =>
    if speaks transition then []
    else if takesText transition then owed past ++ [transition.action.now]
    else owed past

/-- A step that sends one segment, which acknowledges everything received. -/
def Acknowledges (transition : Transition κ ρ) : Prop :=
  ∃ segment : TcpSegment,
    transition.target.cb.transmitted = transition.source.cb.transmitted ++ [segment] ∧
      segment.tcpHdr.ackNum = transition.target.cb.receiver.receiveNext

/-- One acknowledgement is owed at most, and scheduled; otherwise all has been acknowledged. -/
structure Owes (args : NewConnection) (past : List (Transition κ ρ)) (c : Connection κ ρ) :
    Prop where
  delay : c.cb.ackDelayTimeout = args.ackDelayTimeout
  single : (owed past).length ≤ 1
  scheduled : c.cb.ackDeadline = (owed past).head?.map (· + args.ackDelayTimeout)
  settled : owed past = [] → c.cb.lastAcked args.receiverSeqNo = c.cb.receiver.receiveNext

variable [CongestionControl κ] [RtoCalculator ρ] {profile : Profile} {args : NewConnection}
  {source target c : Connection κ ρ} {action : Action} {past : List (Transition κ ρ)}

/-- What a step does to the acknowledgements. -/
theorem step_ackState (answerable : source.Answerable action)
    (advanced : source.step profile action = .ok target) :
    source.cb.ackState.Step action.now target.cb.ackState := by
  cases action with
  | receive env header data =>
    obtain ⟨cb, received, advanced⟩ := bind_ok.mp advanced
    obtain ⟨remoteLinkAddr, known⟩ := Option.isSome_iff_exists.mp answerable
    cases advanced
    exact ControlBlock.receive_step known received
  | pollRecv waker =>
    cases advanced
    exact ControlBlock.pollRecv_step waker source.cb _
  | send env buf =>
    obtain ⟨⟨cb, result⟩, sent, advanced⟩ := bind_ok.mp advanced
    cases advanced
    exact (ControlBlock.send_speaks sent).step _
  | close env =>
    obtain ⟨cb, closed, advanced⟩ := bind_ok.mp advanced
    cases advanced
    exact (ControlBlock.close_speaks closed).step _
  | senderRound env reply =>
    obtain ⟨⟨task, cb⟩, done, advanced⟩ := bind_ok.mp advanced
    cases advanced
    exact (SenderTask.round_speaks done).step _
  | retransmitterRound env =>
    obtain ⟨cb, done, advanced⟩ := bind_ok.mp advanced
    cases advanced
    obtain ⟨-, rfl⟩ | ⟨-, done⟩ := backgroundRound_cases done
    · exact AckState.Speaks.silent.step _
    · exact (ControlBlock.retransmitterRound_speaks done).step _
  | acknowledgerRound env =>
    obtain ⟨cb, done, advanced⟩ := bind_ok.mp advanced
    cases advanced
    obtain ⟨-, rfl⟩ | ⟨-, done⟩ := backgroundRound_cases done
    · exact AckState.Speaks.silent.step _
    · exact (ControlBlock.acknowledgerRound_speaks done).step _

omit [CongestionControl κ] [RtoCalculator ρ] in
/-- A step that sends acknowledges; what is owed after any other step. -/
theorem owed_step (step : source.cb.ackState.Step action.now target.cb.ackState)
    (owes : Owes args past source) :
    Owes args (⟨source, action, target⟩ :: past) target ∧
      (speaks ⟨source, action, target⟩ = true → Acknowledges ⟨source, action, target⟩) := by
  obtain ⟨delay, single, scheduled, settled⟩ := owes
  generalize same : target.cb.ackState = after at step
  have receiver := congrArg AckState.receiver same
  have sent := congrArg AckState.transmitted same
  have deadline := congrArg AckState.ackDeadline same
  have timeout := congrArg AckState.ackDelayTimeout same
  cases step with
  | reads received next queue =>
    dsimp only [ControlBlock.ackState, AckState.spoken] at receiver sent deadline timeout next queue
    have silent : speaks (⟨source, action, target⟩ : Transition κ ρ) = false := by
      simp [speaks, sent]
    have textless : takesText (⟨source, action, target⟩ : Transition κ ρ) = false := by
      rw [takesText, receiver]
      exact decide_eq_false (Nat.not_lt.mpr queue)
    have same : owed (⟨source, action, target⟩ :: past) = owed past := by
      rw [owed, silent, textless]
      rfl
    refine ⟨⟨timeout.trans delay, same ▸ single, ?_, ?_⟩, fun speaks => ?_⟩
    · rw [same, deadline, scheduled]
    · intro nothing
      rw [ControlBlock.lastAcked, sent, receiver, next]
      exact settled (same ▸ nothing)
    · rw [silent] at speaks
      cases speaks
  | acknowledges received segment number =>
    dsimp only [ControlBlock.ackState, AckState.spoken] at receiver sent deadline timeout
    have spoke : speaks (⟨source, action, target⟩ : Transition κ ρ) = true := by
      simp [speaks, sent]
    have nothing : owed (⟨source, action, target⟩ :: past) = [] := by
      rw [owed, spoke]
      rfl
    refine ⟨⟨timeout.trans delay, ?_, ?_, fun _ => ?_⟩, fun _ => ⟨segment, sent, ?_⟩⟩
    · rw [nothing]
      exact Nat.zero_le 1
    · rw [nothing, deadline]
      rfl
    · rw [ControlBlock.lastAcked, sent, receiver, List.getLast?_concat]
      exact number
    · rw [receiver]
      exact number
  | defers received grown idle =>
    dsimp only [ControlBlock.ackState, AckState.spoken] at receiver sent deadline timeout grown idle
    have silent : speaks (⟨source, action, target⟩ : Transition κ ρ) = false := by
      simp [speaks, sent]
    have texts : takesText (⟨source, action, target⟩ : Transition κ ρ) = true := by
      rw [takesText, receiver]
      exact decide_eq_true grown
    have nothing : owed past = [] := by
      have none : (owed past).head?.map (· + args.ackDelayTimeout) = none := scheduled.symm.trans idle
      exact List.head?_eq_none_iff.mp (Option.map_eq_none_iff.mp none)
    have first : owed (⟨source, action, target⟩ :: past) = [action.now] := by
      rw [owed, silent, texts, nothing]
      rfl
    refine ⟨⟨timeout.trans delay, ?_, ?_, fun empty => ?_⟩, fun speaks => ?_⟩
    · rw [first]
      exact Nat.le_refl 1
    · rw [first, deadline, delay]
      rfl
    · rw [first] at empty
      cases empty
    · rw [silent] at speaks
      cases speaks

/-- What is owed after a run. -/
theorem owes_run (run : Run profile (.new args) past c) (answerable : Meets Answerable past) :
    Owes args past c := by
  refine run_invariant (Owes args) ⟨rfl, Nat.zero_le 1, rfl, fun _ => rfl⟩ ?_ run answerable
  intro past source action target _ here owes advanced
  exact (owed_step (step_ackState here advanced) owes).1

/-- Text taken before steps that send nothing is the one thing owed after them. -/
theorem owed_since {later earlier : List (Transition κ ρ)} {taken : Transition κ ρ}
    (run : Run profile (.new args) (later ++ taken :: earlier) c)
    (answerable : Meets Answerable (later ++ taken :: earlier)) (text : takesText taken = true)
    (silent : ∀ transition ∈ later ++ [taken], speaks transition = false) :
    owed (later ++ taken :: earlier) = [taken.action.now] := by
  -- After each of the steps there is one thing owed at most, so that it stays the first.
  have single := (owes_run run answerable).single
  induction later generalizing c with
  | nil =>
    have quiet := silent taken List.mem_cons_self
    rw [List.nil_append, owed, quiet, text, if_neg Bool.false_ne_true, if_pos rfl,
      List.length_append, List.length_singleton] at single
    have nothing : owed earlier = [] := List.length_eq_zero_iff.mp (by omega)
    rw [List.nil_append, owed, quiet, text, nothing]
    rfl
  | cons transition later inductionHypothesis =>
    obtain ⟨before, advanced, -⟩ := run.last
    have answerableBefore := ((meets_cons _ _ _).mp answerable).2
    have held := inductionHypothesis before answerableBefore
      (fun other member => silent other (List.mem_cons_of_mem _ member))
      (owes_run before answerableBefore).single
    have quiet := silent transition List.mem_cons_self
    rw [List.cons_append, owed, quiet, held] at single ⊢
    cases texts : takesText transition with
    | false => rfl
    | true =>
      rw [texts, if_neg Bool.false_ne_true, if_pos rfl] at single
      exact absurd single (Nat.not_succ_le_self 1)

/-- A round of the acknowledger at or after the deadline sends what is owed, if it comes to
an end: without the link address it turns in its loop for good. -/
theorem acknowledger_speaks {env : Env} {deadline : Instant} (runs : c.task ≠ .returned)
    (owes : c.cb.ackDeadline = some deadline) (due : deadline ≤ env.now)
    (advanced : c.step profile (.acknowledgerRound env) = .ok target) :
    speaks ⟨c, .acknowledgerRound env, target⟩ = true := by
  obtain ⟨cb, done, advanced⟩ := bind_ok.mp advanced
  cases advanced
  rw [backgroundRound, if_neg runs, ControlBlock.acknowledgerRound, owes] at done
  dsimp only at done
  rw [if_neg (Nat.not_lt.mpr due)] at done
  obtain ⟨acknowledged, acks, done⟩ := bind_ok.mp done
  cases known : env.linkAddr with
  | none =>
    rw [known] at done
    cases done
  | some remoteLinkAddr =>
    rw [known] at done
    cases done
    obtain ⟨segment, -, spoken⟩ := ControlBlock.sendAck_spoken known acks
    have sent : cb.transmitted = c.cb.transmitted ++ [segment] := congrArg AckState.transmitted spoken
    simp [speaks, sent]

/-- Every step of a run that sends something acknowledges everything received. -/
theorem acknowledges_of_speaks (run : Run profile (.new args) past c)
    (answerable : Meets Answerable past) {answer : Transition κ ρ} (member : answer ∈ past)
    (speaks : speaks answer = true) : Acknowledges answer := by
  obtain ⟨later, earlier, rfl⟩ := List.append_of_mem member
  obtain ⟨middle, reached⟩ := run.earlier
  obtain ⟨before, advanced, -⟩ := reached.last
  obtain ⟨here, meets⟩ := (meets_cons _ _ _).mp (meets_append.mp answerable).2
  exact (owed_step (step_ackState here advanced) (owes_run before meets)).2 speaks

/-- Acknowledgements are held back within bounds. In every reachable state one step's text at
most has not been acknowledged; its deadline is `ackDelayTimeout` after it was taken, and without
it everything received has been acknowledged and the acknowledger has nothing to do. Text is
acknowledged by the first round of the acknowledger at or after that time, if not before, as
long as the coroutines have not ended with a failed query of the sender.

Proof: `Owes` says which text has not been acknowledged and for when its acknowledgement
is due; every step keeps it. Were nothing sent between the text and the round, the text
would still be owed, and the round would find its deadline passed and send. -/
theorem acknowledged_in_time (run : Run profile (.new args) past c)
    (answerable : Meets Answerable past) :
    (owed past).length ≤ 1 ∧
    c.cb.ackDeadline = (owed past).head?.map (· + args.ackDelayTimeout) ∧
    (owed past = [] → c.cb.lastAcked args.receiverSeqNo = c.cb.receiver.receiveNext ∧
      ∀ env, c.step profile (.acknowledgerRound env) = .ok c) ∧
    ∀ (round taken : Transition κ ρ) (later earlier : List (Transition κ ρ)) (env : Env),
      past = round :: (later ++ taken :: earlier) → takesText taken = true →
      round.action = .acknowledgerRound env → round.source.task ≠ .returned →
      taken.action.now + args.ackDelayTimeout ≤ env.now →
      ∃ answer ∈ round :: (later ++ [taken]), Acknowledges answer := by
  have owes := owes_run run answerable
  refine ⟨owes.single, owes.scheduled, fun nothing => ⟨owes.settled nothing, fun env => ?_⟩, ?_⟩
  · have idle : c.cb.ackDeadline = none := by
      rw [owes.scheduled, nothing]
      rfl
    rw [step, backgroundRound, ControlBlock.acknowledgerRound, idle]
    dsimp only
    rw [ite_self]
    rfl
  rintro round taken later earlier env rfl text acknowledger runs due
  -- Some step in between has sent something, or the round does.
  suffices spoken : ∃ answer ∈ round :: (later ++ [taken]), speaks answer = true by
    obtain ⟨answer, member, speaks⟩ := spoken
    refine ⟨answer, member, acknowledges_of_speaks run answerable ?_ speaks⟩
    simp only [List.mem_cons, List.mem_append, List.not_mem_nil, or_false] at member ⊢
    tauto
  by_contra! silent
  obtain ⟨before, advanced, -⟩ := run.last
  have answerableBefore := ((meets_cons _ _ _).mp answerable).2
  have held := owed_since before answerableBefore text fun transition member =>
    Bool.eq_false_iff.mpr (silent transition (List.mem_cons_of_mem _ member))
  have deadline := (owes_run before answerableBefore).scheduled
  rw [held] at deadline
  rw [acknowledger] at advanced
  have speaks := acknowledger_speaks runs deadline due advanced
  exact silent round List.mem_cons_self speaks

/-- Text that arrives at time 0 is acknowledged by a round 5 ms later, as the handshake of the
sample says. -/
theorem acknowledged_in_time_once :
    ∃ (round taken : Transition NoCongestionControl IntegerRto)
      (c : Connection NoCongestionControl IntegerRto),
      Run .dev (.sample 1000 1000 536) [round, taken] c ∧ takesText taken = true ∧
        owed [taken] = [0] ∧ owed [round, taken] = [] ∧
        ∃ answer ∈ [round, taken], Acknowledges answer := by
  have executed : execute .dev (.sample 1000 1000 536)
      [.segment 100 1000 [1, 2, 3] false, .acknowledgerRound (Env.sample 5000000)] =
    .ok _ := rfl
  have run := run_of_execute executed
  exact ⟨_, _, _, run, rfl, rfl, rfl, (acknowledged_in_time run (by decide)).2.2.2 _ _ [] [] _ rfl
    rfl rfl nofun (Nat.le_refl _)⟩

end Connection

end Capybara
