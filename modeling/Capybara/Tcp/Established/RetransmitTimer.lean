import Capybara.Tcp.Established.SendIntegrity
import Capybara.Tcp.Established.Transparency

/-!
# The retransmission timer

Whatever has been transmitted and not yet acknowledged needs somebody to send it
again: the retransmitter, while its deadline is set, or the sender, while it repeats
a window probe that is the only thing outstanding. The deadline is started with every
segment but a probe, restarted by a partial acknowledgement and by its own expiry, and
cleared by a full one.

Both are there only as long as `background` runs. A query of the sender for the link
address that fails ends it, and with it the retransmitter.

A connection also lives through migrations. A rebuilt control block has no deadline,
whatever it was rebuilt with, so a migration keeps the property only if nothing is
outstanding.
-/

namespace Capybara

open EndMarkers

variable {κ ρ : Type}

namespace ControlBlock

variable {profile : Profile} {env : Env} {cb cb' : ControlBlock κ ρ} {header : TcpHeader}
  {data : Buffer} {segment : Accepted}

/-! ## What receiving does to the deadline -/

/-- Sending a segment does not touch the deadline of the retransmitter. -/
theorem emit_deadline {body : Option Buffer} {remoteLinkAddr : MacAddress}
    (emits : cb.emit profile header body remoteLinkAddr = .ok cb') :
    cb'.retransmitDeadline = cb.retransmitDeadline := by
  obtain ⟨-, -, emits⟩ := bind_ok.mp emits
  cases emits
  rfl

/-- Nor does an acknowledgement. -/
theorem sendAck_deadline (sent : cb.sendAck profile env = .ok cb') :
    cb'.retransmitDeadline = cb.retransmitDeadline := by
  obtain ⟨header, -, sent⟩ := bind_ok.mp sent
  split at sent
  · exact emit_deadline sent
  · cases sent
    rfl

/-- Nor does a segment that is not the next one. -/
theorem receiveOutOfOrder_deadline (received : cb.receiveOutOfOrder profile env segment = .ok cb') :
    cb'.retransmitDeadline = cb.retransmitDeadline := by
  obtain rfl | ⟨store, fin, sent⟩ := receiveOutOfOrder_frame received
  · rfl
  · have same := sendAck_deadline sent
    exact same

/-- Nor does a FIN. -/
theorem receiveFin_deadline (received : cb.receiveFin profile env = .ok cb') :
    cb'.retransmitDeadline = cb.retransmitDeadline := by
  unfold receiveFin at received
  split at received
  · cases received
  · have same := sendAck_deadline received
    exact same

/-- Nor does an acknowledgement that is delayed. -/
theorem scheduleAck_deadline (scheduled : cb.scheduleAck profile env = .ok cb') :
    cb'.retransmitDeadline = cb.retransmitDeadline := by
  unfold scheduleAck at scheduled
  split at scheduled
  · cases scheduled
    rfl
  · have same := sendAck_deadline scheduled
    exact same

/-- Nor does the next segment; it is the acknowledgement in it that does. -/
theorem receiveInOrder_deadline (received : cb.receiveInOrder profile env segment = .ok cb') :
    cb'.retransmitDeadline = cb.retransmitDeadline := by
  obtain ⟨⟨text, fin⟩, textual, received⟩ := bind_ok.mp received
  have same : text.retransmitDeadline = cb.retransmitDeadline := by
    split at textual
    · obtain ⟨⟨joined, remembered⟩, joins, textual⟩ := bind_ok.mp textual
      obtain ⟨-, -, joins⟩ := bind_ok.mp joins
      cases textual
      cases joins
      rfl
    · cases textual
      rfl
  dsimp only at received
  split at received
  · exact (receiveFin_deadline received).trans same
  split at received
  · exact (scheduleAck_deadline received).trans same
  · cases received
    exact same

variable [CongestionControl κ] [RtoCalculator ρ]

/-- The ACK section restarts the deadline at a partial acknowledgement of something
new and clears it at a full one. -/
theorem processAck_deadline {proceed : Bool}
    (processed : cb.processAck profile env header = .ok (cb', proceed)) :
    (cb'.retransmitDeadline = cb.retransmitDeadline ∧ cb'.sender = cb.sender) ∨
    cb'.retransmitDeadline.isSome = true ∨
    cb'.sender.sendUnacked.value = cb'.sender.sendNext.value := by
  unfold processAck at processed
  dsimp only at processed
  split at processed
  · split at processed
    · obtain ⟨⟨unackedQueue, rto⟩, -, processed⟩ := bind_ok.mp processed
      obtain ⟨sender, updated, processed⟩ := bind_ok.mp processed
      obtain ⟨_, _, _, rfl⟩ := Sender.updateSendWindow_ok updated
      dsimp only at processed
      split at processed
      · rename_i all
        cases processed
        exact .inr (.inr all)
      · cases processed
        exact .inr (.inl rfl)
    · cases processed
      exact .inl ⟨rfl, rfl⟩
  · cases processed
    exact .inl ⟨rfl, rfl⟩

/-- The timer runs, or neither it nor what it is for has changed. -/
def Timed (cb cb' : ControlBlock κ ρ) : Prop :=
  cb'.retransmitDeadline.isSome = true ∨
  (cb'.retransmitDeadline = cb.retransmitDeadline ∧
    cb'.sender.unackedBuffers = cb.sender.unackedBuffers ∧
    cb'.sender.sendWindow = cb.sender.sendWindow)

omit [CongestionControl κ] [RtoCalculator ρ] in
/-- A call that changes neither the deadline nor the sender keeps the timer. -/
theorem Timed.of_sender (deadline : cb'.retransmitDeadline = cb.retransmitDeadline)
    (sender : cb'.sender = cb.sender) : cb.Timed cb' :=
  .inr ⟨deadline, by rw [sender], by rw [sender]⟩

/-- An arriving segment leaves the timer as it is, restarts it, or acknowledges
everything sent. -/
theorem receive_timed (received : cb.receive profile env header data = .ok cb') :
    cb.Timed cb' ∨ cb'.sender.sendUnacked.value = cb'.sender.sendNext.value := by
  cases receive_passes received with
  | dropped | silent | syn => exact .inl (.of_sender rfl rfl)
  | answered refused sent =>
    exact .inl (.of_sender (sendAck_deadline sent) (sendAck_onlyAcks sent).sender)
  | reset =>
    left
    unfold receiveRst
    split <;> exact .of_sender rfl rfl
  | @acknowledged segment acked _ proceed trims quiet plain acks processed further =>
    have kept : cb'.retransmitDeadline = acked.retransmitDeadline ∧ cb'.sender = acked.sender := by
      obtain sent | stored | ⟨starts, inOrder⟩ := further
      · exact ⟨sendAck_deadline sent, (sendAck_onlyAcks sent).sender⟩
      · exact ⟨receiveOutOfOrder_deadline stored, (receiveOutOfOrder_onlyAcks stored).sender⟩
      · exact ⟨receiveInOrder_deadline inOrder, (receiveInOrder_onlyAcks starts inOrder).sender⟩
    obtain ⟨deadline, sender⟩ := kept
    obtain ⟨same, same'⟩ | runs | all := processAck_deadline processed
    · exact .inl (.of_sender (deadline.trans same) (sender.trans same'))
    · exact .inl (.inl (by rw [deadline]; exact runs))
    · exact .inr (by rw [sender]; exact all)

/-! ## What sending does to the deadline -/

omit [CongestionControl κ] in
/-- The timer runs after it was started. -/
theorem startRetransmitTimer_runs (now : Instant) (cb : ControlBlock κ ρ) :
    (startRetransmitTimer now cb).retransmitDeadline.isSome = true := by
  unfold startRetransmitTimer
  cases cb.retransmitDeadline <;> rfl

omit [CongestionControl κ] [RtoCalculator ρ] in
/-- Data that is queued needs no timer yet. -/
theorem queueUnsent_timed (cb : ControlBlock κ ρ) (buf : Buffer) : cb.Timed (cb.queueUnsent buf).1 := by
  obtain ⟨fail, refused⟩ | queued := queueUnsent_cases cb buf
  · rw [refused]
    exact .of_sender rfl rfl
  · rw [queued]
    exact .inr ⟨rfl, rfl, rfl⟩

/-- Data that is sent at once waits for its acknowledgement, and the timer is started unless it
runs. -/
theorem sendImmediate_timed {buf : Buffer} {remoteLinkAddr : MacAddress}
    (sent : cb.sendImmediate profile env buf remoteLinkAddr = .ok cb') : cb.Timed cb' := by
  obtain ⟨_, -, sent⟩ := bind_ok.mp sent
  obtain ⟨_, -, sent⟩ := bind_ok.mp sent
  cases sent
  exact .inl (startRetransmitTimer_runs ..)

/-- A send keeps the timer on either path. -/
theorem send_timed {buf : Buffer} {result : Except Fail Unit}
    (sent : cb.send profile env buf = .ok (cb', result)) : cb.Timed cb' := by
  have slow {before : ControlBlock κ ρ} (deadline : before.retransmitDeadline = cb.retransmitDeadline)
      (sender : before.sender = cb.sender)
      (queues : Except.ok (before.queueUnsent buf) = (.ok (cb', result) : Checked _)) :
      cb.Timed cb' := by
    have timed := queueUnsent_timed before buf
    rw [congrArg Prod.fst (Except.ok.inj queues)] at timed
    rwa [Timed, deadline, sender] at timed
  unfold send at sent
  split at sent
  · cases sent
    exact .of_sender rfl rfl
  split at sent
  · cases sent
    exact .of_sender rfl rfl
  split at sent
  · exact slow rfl rfl sent
  obtain ⟨_, -, sent⟩ := bind_ok.mp sent
  obtain ⟨_, -, sent⟩ := bind_ok.mp sent
  dsimp only at sent
  split at sent
  · split at sent
    · obtain ⟨_, immediate, sent⟩ := bind_ok.mp sent
      cases sent
      have timed := sendImmediate_timed immediate
      exact timed
    · exact slow (by rfl) (by rfl) sent
  · exact slow (by rfl) (by rfl) sent

/-- A close keeps the timer, since its FIN is queued or sent like data. -/
theorem close_timed (closed : cb.close profile env = .ok cb') : cb.Timed cb' := by
  unfold close at closed
  split at closed
  · cases closed
    exact .of_sender rfl rfl
  obtain ⟨-, -, closed⟩ := bind_ok.mp closed
  obtain ⟨⟨after, result⟩, sent, closed⟩ := bind_ok.mp closed
  have timed := send_timed sent
  cases result with
  | error fail => cases closed
  | ok =>
    cases closed
    exact timed

omit [CongestionControl κ] [RtoCalculator ρ] in
/-- A retransmission keeps the timer: it forgets a time of transmission, and the deadline is set
by the round that asks for it. -/
theorem retransmit_timed (done : cb.retransmit profile env = .ok cb') : cb.Timed cb' := by
  have deadline : cb'.retransmitDeadline = cb.retransmitDeadline := by
    unfold retransmit at done
    split at done
    · cases done
      rfl
    dsimp only at done
    split at done
    · cases done
      rfl
    · obtain ⟨_, -, done⟩ := bind_ok.mp done
      have same := emit_deadline done
      exact same
  obtain rfl | ⟨segment, rest, queue, sends⟩ := retransmit_cases done
  · exact .of_sender rfl rfl
  have sender : cb'.sender = retransmitted cb.sender segment rest := by
    obtain seen | ⟨out, -, seen⟩ := sends
    · exact congrArg View.sender seen
    · exact congrArg View.sender seen
  refine .inr ⟨deadline, ?_, by rw [sender]; rfl⟩
  rw [sender, Sender.unackedBuffers, Sender.unackedBuffers, queue]
  rfl

/-- A round of the retransmitter keeps the timer, whether the deadline has passed or not. -/
theorem retransmitterRound_timed (done : cb.retransmitterRound profile env = .ok cb') :
    cb.Timed cb' := by
  unfold retransmitterRound at done
  split at done
  · have timed := retransmit_timed done
    exact timed
  split at done
  · cases done
    exact .of_sender rfl rfl
  split at done
  · cases done
    exact .of_sender rfl rfl
  · obtain ⟨_, -, done⟩ := bind_ok.mp done
    cases done
    exact .inl rfl

end ControlBlock

/-! ## The coroutine `sender` -/

/-- The sender repeats a probe with these bytes as long as the window has been set so
many times. -/
def SenderTask.repeatsProbe (bytes : Buffer) (windowChanges : Nat) : SenderTask → Prop
  | .persist _ buf _ changes _ _ => buf = bytes ∧ changes = windowChanges
  | _ => False

namespace Connection

/-- Nothing is outstanding, or the retransmitter has a deadline, or the one thing
outstanding is the probe that the sender repeats. -/
def Timed (c : Connection κ ρ) : Prop :=
  c.cb.sender.unackedBuffers = [] ∨ c.cb.retransmitDeadline.isSome = true ∨
    ∃ probe, c.cb.sender.unackedBuffers = [probe] ∧
      c.task.repeatsProbe probe c.cb.sender.sendWindow.changes

/-- A step that is no round of the sender. -/
theorem Timed.keep {c : Connection κ ρ} {cb : ControlBlock κ ρ} (timed : c.Timed)
    (kept : c.cb.Timed cb) : ({ c with cb } : Connection κ ρ).Timed := by
  obtain runs | ⟨deadline, queue, window⟩ := kept
  · exact .inr (.inl runs)
  · unfold Timed
    rw [deadline, queue, window]
    exact timed

/-- A coroutine that is not in its persist loop leaves the timer to the retransmitter. -/
theorem Timed.elsewhere {c : Connection κ ρ} (timed : c.Timed)
    (apart : ∀ probe, ¬ c.task.repeatsProbe probe c.cb.sender.sendWindow.changes) :
    c.cb.sender.unackedBuffers = [] ∨ c.cb.retransmitDeadline.isSome = true := by
  obtain empty | runs | ⟨probe, -, repeats⟩ := timed
  · exact .inl empty
  · exact .inr runs
  · exact absurd repeats (apart probe)

end Connection

namespace SenderTask

variable {profile : Profile} {env : Env} {reply : ArpReply} {cb cb' : ControlBlock κ ρ}
  {task task' : SenderTask}

/-- A probe on its own is repeated by the persist loop. -/
theorem sendProbe_timed {sendNext : SeqNumber} {remoteLinkAddr : MacAddress}
    (quiet : cb.sender.unackedBuffers = [] ∨ cb.retransmitDeadline.isSome = true)
    (sent : sendProbe profile env cb sendNext remoteLinkAddr = .ok (task, cb')) :
    Connection.Timed ⟨cb', task⟩ := by
  obtain ⟨popped, pops, sent⟩ := bind_ok.mp sent
  cases popped with
  | none => cases sent
  | some popped =>
    obtain ⟨buf, unsentQueue⟩ := popped
    obtain ⟨header, built, sent⟩ := bind_ok.mp sent
    obtain ⟨emitted, emits, sent⟩ := bind_ok.mp sent
    obtain ⟨acks, -, -⟩ := ControlBlock.tcpHeader_ok built
    obtain ⟨segment, -, -, seen⟩ := ControlBlock.emit_ok emits acks
    have deadline := ControlBlock.emit_deadline emits
    have sender := congrArg View.sender seen
    cases sent
    obtain empty | runs := quiet
    · refine .inr (.inr ⟨buf, ?_, rfl, rfl⟩)
      change cb'.sender.unackedBuffers = [buf]
      rw [show cb'.sender = _ from sender]
      change (cb.sender.unackedQueue ++ [_]).map UnackedSegment.bytes = [buf]
      rw [List.map_append, show cb.sender.unackedQueue.map UnackedSegment.bytes = [] from empty]
      rfl
    · refine .inr (.inl ?_)
      change cb'.retransmitDeadline.isSome = true
      rw [deadline]
      exact runs

variable [CongestionControl κ] [RtoCalculator ρ]

/-- A segment of the coroutine waits for its acknowledgement, and the timer is started unless it
runs. -/
theorem sendSegment_timed {sendNext : SeqNumber} {winSz sentData effectiveCwnd : Nat}
    {remoteLinkAddr : MacAddress}
    (sent : sendSegment profile env cb sendNext winSz sentData effectiveCwnd remoteLinkAddr =
      .ok (task, cb')) : Connection.Timed ⟨cb', task⟩ := by
  obtain ⟨_, -, sent⟩ := bind_ok.mp sent
  obtain ⟨_, -, sent⟩ := bind_ok.mp sent
  obtain ⟨popped, -, sent⟩ := bind_ok.mp sent
  cases popped with
  | none => cases sent
  | some popped =>
    obtain ⟨_, -, sent⟩ := bind_ok.mp sent
    obtain ⟨_, -, sent⟩ := bind_ok.mp sent
    obtain ⟨_, -, sent⟩ := bind_ok.mp sent
    cases sent
    exact .inr (.inl (ControlBlock.startRetransmitTimer_runs ..))

/-- From the head of the loop. -/
theorem fromTop_timed
    (quiet : cb.sender.unackedBuffers = [] ∨ cb.retransmitDeadline.isSome = true)
    (done : fromTop profile env reply cb = .ok (task, cb')) : Connection.Timed ⟨cb', task⟩ := by
  have still : Connection.Timed ⟨cb, task⟩ := quiet.elim .inl fun runs => .inr (.inl runs)
  unfold fromTop at done
  dsimp only at done
  split at done
  · cases done
    exact still
  split at done
  · cases reply with
    | pending | failed =>
      cases done
      exact still
    | resolved remoteLinkAddr => exact sendProbe_timed quiet done
  obtain ⟨_, -, done⟩ := bind_ok.mp done
  split at done
  · cases done
  obtain ⟨_, -, done⟩ := bind_ok.mp done
  split at done
  · cases done
    exact still
  · cases reply with
    | pending | failed =>
      cases done
      exact still
    | resolved remoteLinkAddr => exact sendSegment_timed done

/-- A round of the coroutine from wherever it is suspended. -/
theorem round_timed (timed : Connection.Timed ⟨cb, task⟩)
    (done : task.round profile env reply cb = .ok (task', cb')) :
    Connection.Timed ⟨cb', task'⟩ := by
  cases task with
  | top => exact fromTop_timed (timed.elsewhere fun _ => id) done
  | idle | blocked =>
    have quiet := timed.elsewhere fun _ => id
    simp only [round] at done
    split at done <;> cases done
    · exact quiet.elim .inl fun runs => .inr (.inl runs)
    · exact timed
  | queryProbe =>
    cases reply with
    | pending =>
      cases done
      exact timed
    | failed =>
      cases done
      exact (timed.elsewhere fun _ => id).elim .inl fun runs => .inr (.inl runs)
    | resolved => exact sendProbe_timed (timed.elsewhere fun _ => id) done
  | querySend =>
    cases reply with
    | pending =>
      cases done
      exact timed
    | failed =>
      cases done
      exact (timed.elsewhere fun _ => id).elim .inl fun runs => .inr (.inl runs)
    | resolved => exact sendSegment_timed done
  | persist sendNext buf remoteLinkAddr windowChanges timeout deadline =>
    simp only [round] at done
    split at done
    · rename_i changed
      cases done
      have quiet := timed.elsewhere fun _ repeats => changed repeats.2.symm
      exact quiet.elim .inl fun runs => .inr (.inl runs)
    split at done
    · cases done
      exact timed
    · obtain ⟨header, built, done⟩ := bind_ok.mp done
      obtain ⟨acks, -, -⟩ := ControlBlock.tcpHeader_ok built
      obtain ⟨emitted, emits, done⟩ := bind_ok.mp done
      obtain ⟨segment, -, -, seen⟩ := ControlBlock.emit_ok emits acks
      cases done
      exact timed.keep (.of_sender (ControlBlock.emit_deadline emits) (congrArg View.sender seen))
  | returned =>
    cases done
    exact timed

end SenderTask

/-! ## The end of `background` -/

/-- The sender's query for the link address has failed. -/
def Action.queryFails : Action → Bool
  | .senderRound _ .failed => true
  | _ => false

namespace SenderTask

variable {profile : Profile} {env : Env} {reply : ArpReply} {cb cb' : ControlBlock κ ρ}
  {task task' : SenderTask}

/-- A probe does not end the coroutine. -/
theorem sendProbe_runs {sendNext : SeqNumber} {remoteLinkAddr : MacAddress}
    (sent : sendProbe profile env cb sendNext remoteLinkAddr = .ok (task, cb')) :
    task ≠ .returned := by
  obtain ⟨_, _, _, _, _, -, rfl, -⟩ := sendProbe_ok sent
  nofun

variable [CongestionControl κ] [RtoCalculator ρ]

/-- A segment does not end the coroutine. -/
theorem sendSegment_runs {sendNext : SeqNumber} {winSz sentData effectiveCwnd : Nat}
    {remoteLinkAddr : MacAddress}
    (sent : sendSegment profile env cb sendNext winSz sentData effectiveCwnd remoteLinkAddr =
      .ok (task, cb')) : task ≠ .returned := by
  obtain ⟨_, _, _, _, _, -, -, -, rfl, -⟩ := sendSegment_ok sent
  nofun

/-- A turn of the coroutine from its top ends only with a query that has failed. -/
theorem fromTop_runs (known : reply ≠ .failed)
    (done : fromTop profile env reply cb = .ok (task, cb')) : task ≠ .returned := by
  unfold fromTop at done
  dsimp only at done
  split at done
  · cases done
    nofun
  split at done
  · cases reply with
    | pending =>
      cases done
      nofun
    | failed => exact absurd rfl known
    | resolved remoteLinkAddr => exact sendProbe_runs done
  obtain ⟨_, -, done⟩ := bind_ok.mp done
  split at done
  · cases done
  obtain ⟨_, -, done⟩ := bind_ok.mp done
  split at done
  · cases done
    nofun
  · cases reply with
    | pending =>
      cases done
      nofun
    | failed => exact absurd rfl known
    | resolved remoteLinkAddr => exact sendSegment_runs done

/-- Only a failed query ends the coroutine. -/
theorem round_runs (known : reply ≠ .failed) (runs : task ≠ .returned)
    (done : task.round profile env reply cb = .ok (task', cb')) : task' ≠ .returned := by
  cases task with
  | top => exact fromTop_runs known done
  | idle | blocked =>
    simp only [round] at done
    split at done <;> cases done <;> rintro ⟨⟩
  | queryProbe =>
    cases reply with
    | pending =>
      cases done
      rintro ⟨⟩
    | failed => exact absurd rfl known
    | resolved => exact sendProbe_runs done
  | querySend =>
    cases reply with
    | pending =>
      cases done
      rintro ⟨⟩
    | failed => exact absurd rfl known
    | resolved => exact sendSegment_runs done
  | persist =>
    simp only [round] at done
    split at done
    · cases done
      rintro ⟨⟩
    split at done
    · cases done
      rintro ⟨⟩
    · obtain ⟨_, -, done⟩ := bind_ok.mp done
      obtain ⟨_, -, done⟩ := bind_ok.mp done
      cases done
      rintro ⟨⟩
  | returned => exact absurd rfl runs

end SenderTask

/-! ## Lives -/

/-- What can happen to a connection in its life: the actions on one server, and its
migration to another one. -/
inductive Event where
  | act (action : Action)
  | migrate (application : Option ApplicationState) (importer : Importer) (localAddr : SocketAddrV4)

namespace Connection

variable [CongestionControl κ] [RtoCalculator ρ] {profile : Profile} {iss : SeqNumber}
  {stream : Buffer} {acked : Nat}

/-- One event. Closing a connection removes its descriptor, without which it cannot
migrate; a rebuilt connection starts with a new sender. -/
def live (profile : Profile) (c : Connection κ ρ) : Event → Checked (Connection κ ρ)
  | .act action => c.step profile action
  | .migrate application importer localAddr =>
    if c.cb.userIsDoneSending then .error .invalidQdForMigratingOut
    else do
      let cb ← c.cb.migrate profile application importer localAddr
      .ok ⟨cb, .top⟩

/-- The connections reached from `start` over any number of servers. -/
abbrev Life (profile : Profile) (start : Connection κ ρ) :
    List (Runs.Transition (Connection κ ρ) Event) → Connection κ ρ → Prop :=
  Runs.Run (live profile) start

/-- The queues keep their meaning, no query for the link address fails, and a connection
migrates with nothing outstanding. -/
def Covered (c : Connection κ ρ) : Event → Prop
  | .act action => c.StreamKept action ∧ action.queryFails = false
  | .migrate _ _ _ => c.cb.sender.unackedQueue = []

omit [CongestionControl κ] [RtoCalculator ρ] in
instance (c : Connection κ ρ) (event : Event) : Decidable (c.Covered event) :=
  match event with
  | .act action => inferInstanceAs (Decidable (c.StreamKept action ∧ action.queryFails = false))
  | .migrate _ _ _ => inferInstanceAs (Decidable (_ = _))

/-- A full acknowledgement leaves nothing outstanding. -/
theorem receive_covers {env : Env} {header : TcpHeader} {data : Buffer} {cb cb' : ControlBlock κ ρ}
    {task : SenderTask} (holds : Transmits iss stream acked cb.view task)
    (small : cb.sender.held + 1 < 2 ^ 32)
    (received : cb.receive profile env header data = .ok cb')
    (all : cb'.sender.sendUnacked.value = cb'.sender.sendNext.value) :
    cb'.sender.unackedBuffers = [] := by
  have most := holds.sending.spans_le
  have total := holds.sending.total
  obtain ⟨after, -, -⟩ := holds.receive small received
  have total' := after.total
  have numbers : cb'.sender.sendNext.value =
      cb'.sender.sendUnacked.value.advanced (spans cb'.sender.unackedBuffers) := by
    rw [show cb'.sender.sendUnacked.value = _ from after.unacked,
      show cb'.sender.sendNext.value = _ from after.next, SeqNumber.advanced_advanced]
    rfl
  have done : cb'.userIsDoneSending = cb.userIsDoneSending :=
    (ControlBlock.receive_acks received).2.1
  change _ + spans cb'.sender.pending = _ + cb'.userIsDoneSending.toNat at total'
  rw [done, Sending.spans_pending] at total'
  change spans cb.sender.pending ≤ cb.sender.held + 1 at most
  change acked + spans cb.sender.pending = _ + cb.userIsDoneSending.toNat at total
  have short : spans cb'.sender.unackedBuffers < 2 ^ 32 := by omega
  apply spans_eq_zero.mp
  rw [← SeqNumber.ahead_advanced_of_lt cb'.sender.sendUnacked.value short, ← numbers, ← all,
    SeqNumber.ahead_self]

/-- One action keeps the timer. -/
theorem step_timed {source target : Connection κ ρ} {action : Action}
    (holds : Transmits iss stream acked source.cb.view source.task)
    (kept : source.StreamKept action) (timed : source.Timed)
    (advanced : source.step profile action = .ok target) : target.Timed := by
  cases action with
  | receive env header data =>
    obtain ⟨cb, received, advanced⟩ := bind_ok.mp advanced
    cases advanced
    obtain same | all := ControlBlock.receive_timed received
    · exact timed.keep same
    · exact .inl (receive_covers holds kept.small received all)
  | pollRecv waker =>
    cases advanced
    refine timed.keep ?_
    unfold ControlBlock.pollRecv
    split <;> exact .of_sender rfl rfl
  | send env buf =>
    obtain ⟨⟨cb, result⟩, sent, advanced⟩ := bind_ok.mp advanced
    cases advanced
    exact timed.keep (ControlBlock.send_timed sent)
  | close env =>
    obtain ⟨cb, closed, advanced⟩ := bind_ok.mp advanced
    cases advanced
    exact timed.keep (ControlBlock.close_timed closed)
  | senderRound env reply =>
    obtain ⟨⟨task, cb⟩, done, advanced⟩ := bind_ok.mp advanced
    cases advanced
    exact SenderTask.round_timed timed done
  | retransmitterRound env =>
    obtain ⟨cb, done, advanced⟩ := bind_ok.mp advanced
    cases advanced
    obtain ⟨-, rfl⟩ | ⟨-, done⟩ := backgroundRound_cases done
    · exact timed
    · exact timed.keep (ControlBlock.retransmitterRound_timed done)
  | acknowledgerRound env =>
    obtain ⟨cb, done, advanced⟩ := bind_ok.mp advanced
    cases advanced
    obtain ⟨-, rfl⟩ | ⟨-, done⟩ := backgroundRound_cases done
    · exact timed
    obtain rfl | sent := ControlBlock.acknowledgerRound_cases done
    · exact timed
    · exact timed.keep (.of_sender (ControlBlock.sendAck_deadline sent)
        (ControlBlock.sendAck_onlyAcks sent).sender)

/-- While no query fails, `background` does not end. -/
theorem step_runs {source target : Connection κ ρ} {action : Action}
    (known : action.queryFails = false) (runs : source.task ≠ .returned)
    (advanced : source.step profile action = .ok target) : target.task ≠ .returned := by
  cases action with
  | pollRecv waker =>
    cases advanced
    exact runs
  | senderRound env reply =>
    obtain ⟨⟨task, cb⟩, done, advanced⟩ := bind_ok.mp advanced
    cases advanced
    refine SenderTask.round_runs ?_ runs done
    rintro rfl
    cases known
  | receive | send | close | retransmitterRound | acknowledgerRound =>
    obtain ⟨_, -, advanced⟩ := bind_ok.mp advanced
    cases advanced
    exact runs

/-- A rebuilt sender holds the same rest of the same stream. -/
theorem migrate_transmits {application : Option ApplicationState} {importer : Importer}
    {localAddr : SocketAddrV4} {cb rebuilt : ControlBlock κ ρ} {task : SenderTask}
    (holds : Transmits iss stream acked cb.view task) (active : cb.userIsDoneSending = false)
    (migrated : cb.migrate profile application importer localAddr = .ok rebuilt) :
    Transmits iss stream acked rebuilt.view .top := by
  obtain ⟨exportable, rfl⟩ := ControlBlock.migrate_ok.mp migrated
  obtain ⟨ordered, data, marked, total, unacked, next, unsent, mss⟩ := holds.sending
  have buffers : Sender.unackedBuffers (cb.exported.untimed.setLocal localAddr).sender.toSender =
      cb.sender.unackedBuffers := by
    change (cb.sender.unackedQueue.map UnackedSegment.untimed).map UnackedSegment.bytes = _
    rw [List.map_map]
    rfl
  have pending : Sender.pending (cb.exported.untimed.setLocal localAddr).sender.toSender =
      cb.sender.pending := by
    rw [Sender.pending, buffers]
    rfl
  have segment : (cb.exported.untimed.setLocal localAddr).sender.toSender.mss = cb.sender.mss :=
    UInt32.toNat_ofNat_of_lt' exportable.1
  change acked + spans cb.sender.pending = stream.length + cb.userIsDoneSending.toNat at total
  change [] ∈ cb.sender.pending → cb.userIsDoneSending = true at marked
  rw [active] at total marked
  refine ⟨⟨?_, ?_, ?_, ?_, unacked, ?_, unsent, ?_⟩, .rests rfl, by simp [ControlBlock.view,
    ControlBlock.fromState]⟩
  · exact pending ▸ ordered
  · exact (congrArg List.flatten pending).trans data
  · intro marker
    exact marked (pending ▸ marker)
  · exact (congrArg (acked + spans ·) pending).trans total
  · exact next.trans (congrArg (fun queue => iss.advanced (acked + spans queue)) buffers.symm)
  · exact segment ▸ mss

/-- Retransmission timer. Along every life in which the queues keep their meaning, no query
for the link address fails and a connection migrates only with nothing outstanding, the
coroutines run, and something outstanding has a deadline for its retransmission, or it is
the one probe that the sender repeats in its persist loop.

Proof: three facts are carried along the life: the queues mean the stream, the task has
not ended, and the disjunction of the statement. A coroutine step keeps them because
what is transmitted is queued and armed together, and a migration because the queue that
it rebuilds is empty. -/
theorem timer_armed (profile : Profile) (args : NewConnection) (mss : 1 ≤ args.senderMss)
    {past : List (Runs.Transition (Connection κ ρ) Event)} {state : Connection κ ρ}
    (life : Life profile (Connection.new args) past state) (covered : Runs.Meets Covered past) :
    state.task ≠ .returned ∧ (state.cb.sender.unackedQueue ≠ [] →
      state.cb.retransmitDeadline.isSome = true ∨
        ∃ probe, state.cb.sender.unackedBuffers = [probe] ∧
          state.task.repeatsProbe probe state.cb.sender.sendWindow.changes) := by
  have holds : (∃ iss stream acked, Transmits iss stream acked state.cb.view state.task) ∧
      state.task ≠ .returned ∧ state.Timed := by
    refine Runs.state_invariant (fun (state : Connection κ ρ) =>
      (∃ iss stream acked, Transmits iss stream acked state.cb.view state.task) ∧
        state.task ≠ .returned ∧ state.Timed) ?_ ?_ life covered
    · exact ⟨⟨_, _, _, run_transmits mss (Runs.Run.nil : Run profile _ _ _) (Runs.meets_nil _)⟩,
        nofun, .inl rfl⟩
    · intro source event target here ⟨⟨iss, stream, acked, transmits⟩, runs, timed⟩ advanced
      cases event with
      | act action =>
        obtain ⟨kept, known⟩ := here
        exact ⟨⟨_, _, _, step_transmits kept transmits advanced⟩, step_runs known runs advanced,
          step_timed transmits kept timed advanced⟩
      | migrate application importer localAddr =>
        simp only [live] at advanced
        split at advanced
        · cases advanced
        rename_i active
        obtain ⟨rebuilt, migrated, advanced⟩ := bind_ok.mp advanced
        cases advanced
        refine ⟨⟨_, _, _, migrate_transmits transmits (Bool.eq_false_iff.mpr active) migrated⟩,
          nofun, .inl ?_⟩
        obtain ⟨-, rfl⟩ := ControlBlock.migrate_ok.mp migrated
        change (source.cb.sender.unackedQueue.map UnackedSegment.untimed).map
          UnackedSegment.bytes = []
        rw [show source.cb.sender.unackedQueue = [] from here]
        rfl
  refine ⟨holds.2.1, fun outstanding => ?_⟩
  obtain empty | runs | probed := holds.2.2
  · exact absurd (List.map_eq_nil_iff.mp empty) outstanding
  · exact .inl runs
  · exact .inr probed

/-- A migration of what the format can express leads to the rebuilt connection. -/
theorem live_migrate (profile : Profile) {c : Connection κ ρ} (application : Option ApplicationState)
    (importer : Importer) (localAddr : SocketAddrV4) (active : c.cb.userIsDoneSending = false)
    (exportable : c.cb.Exportable) :
    c.live profile (.migrate application importer localAddr) =
      .ok ⟨.fromState importer (c.cb.exported.untimed.setLocal localAddr), .top⟩ := by
  simp only [live, active, Bool.false_eq_true, if_false,
    ControlBlock.migrate_ok.mpr ⟨exportable, rfl⟩, bind, Except.bind]

/-- A connection migrates before it sends; what it sends has a deadline. -/
theorem timer_armed_migrated :
    ∃ past state, Life .dev (Connection.sample 1000 1000 536) past state ∧ past.length = 2 ∧
      state.cb.sender.unackedBuffers = [[1, 2]] ∧ state.cb.retransmitDeadline.isSome = true := by
  have life : ∃ past state, Life .dev (Connection.sample 1000 1000 536) past state ∧
      past.length = 2 ∧ Runs.Meets Covered past ∧ state.task = .top ∧
      state.cb.sender.unackedBuffers = [[1, 2]] := by
    have migrates := live_migrate .dev (c := Connection.sample 1000 1000 536) none
      Importer.sample ⟨0x0a000003#32, 80⟩ rfl ⟨by decide, ⟨by decide, by decide⟩,
        ⟨by decide, by decide⟩, ⟨by decide, by decide⟩, ⟨by decide, by decide⟩⟩
    exact ⟨_, _, .step (.act (.send (Env.sample 0) [1, 2])) (.step _ .nil migrates) rfl, rfl,
      by decide, rfl, rfl⟩
  obtain ⟨past, state, life, length, covered, top, queue⟩ := life
  have armed := (timer_armed .dev (NewConnection.sample 1000 1000 536) (by decide) life covered).2
    (by
      intro empty
      rw [Sender.unackedBuffers, empty] at queue
      cases queue)
  refine ⟨past, state, life, length, queue, armed.elim id ?_⟩
  rintro ⟨probe, -, repeats⟩
  rw [top] at repeats
  cases repeats

/-- Two bytes are outstanding when the connection migrates. The rebuilt connection has
no deadline for them and its sender is not in the persist loop; an hour later neither
coroutine has sent them again. -/
theorem outstanding_forgotten :
    ∃ past state, Life .dev (Connection.sample 1000 1000 536) past state ∧
      state.cb.sender.unackedBuffers = [[1, 2]] ∧ state.cb.retransmitDeadline = none ∧
      state.task = .top ∧
      ∃ past' later, Life .dev state past' later ∧ past'.length = 3 ∧
        later.cb.sender.unackedBuffers = [[1, 2]] ∧ later.cb.transmitted = [] ∧
        later.cb.retransmitDeadline = none ∧ later.task.holdsNothing = true := by
  refine ⟨_, _, .step _ (.step (.act (.send (Env.sample 0) [1, 2])) .nil rfl)
    (live_migrate .dev none Importer.sample ⟨0x0a000003#32, 80⟩ rfl ?_), rfl, rfl, rfl, _, _,
    .step (.act (.senderRound (Env.sample 3600000000000) (.resolved 2#48)))
      (.step (.act (.retransmitterRound (Env.sample 3600000000000)))
        (.step (.act (.senderRound (Env.sample 1) (.resolved 2#48))) .nil rfl) rfl) rfl,
    rfl, rfl, rfl, rfl, rfl⟩
  exact ⟨by decide, ⟨by decide, by decide⟩, ⟨by decide, by decide⟩, ⟨by decide, by decide⟩,
    ⟨by decide, by decide⟩⟩

/-- Two bytes are outstanding and one more waits behind them when the query of the sender for
the link address fails. The deadline passes, and nobody is there to meet it. -/
theorem query_failed_forgotten :
    ∃ past state, Run .dev (Connection.sample 1000 1000 536) past state ∧
      state.cb.sender.unackedBuffers = [[1, 2]] ∧ state.task = .returned ∧
      state.cb.retransmitDeadline.isSome = true ∧
      ∀ env, state.step .dev (.retransmitterRound env) = .ok state := by
  have executed : execute .dev (Connection.sample 1000 1000 536)
      [.send (Env.sample 0) [1, 2], .send ⟨0, none⟩ [3], .senderRound (Env.sample 0) .failed] =
    .ok _ := rfl
  exact ⟨_, _, run_of_execute executed, rfl, rfl, rfl, fun _ => rfl⟩

end Connection

end Capybara
