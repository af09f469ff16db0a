import Capybara.Tcp.Established.View

/-!
# What the sending actions do

One inversion lemma for each routine that sends: the view after it, in terms of
the one before. Segments added to `transmitted` are described by what they carry.

The receiving side is the same in every case, and the state changes only when a
FIN is emitted.
-/

namespace Capybara

variable {κ ρ : Type}

/-- The sequence numbers that a queued buffer stands for: an empty one is the FIN. -/
def sequenceNumbers (bytes : Buffer) : Nat := if bytes.length == 0 then 1 else bytes.length

/-- The sender after the bytes have left and `sent` numbers have been used. -/
def Sender.after (sender : Sender) (bytes : Buffer) (now : Instant) (sent : Nat) : Sender :=
  { sender with
    sendNext := sender.sendNext.set (sender.sendNext.value.advanced sent)
    unackedQueue := sender.unackedQueue ++ [{ bytes, initialTx := some now }] }

namespace ControlBlock

/-- The sender with a buffer queued behind what is already unsent. -/
def queued (sender : Sender) (buf : Buffer) : Sender :=
  { sender with
    unsentQueue := sender.unsentQueue ++ [buf]
    unsentSeqNo := sender.unsentSeqNo.set (sender.unsentSeqNo.value.advanced buf.length) }

/-- The slow path of `send` either refuses the buffer or queues it. -/
theorem queueUnsent_cases (cb : ControlBlock κ ρ) (buf : Buffer) :
    (∃ fail, cb.queueUnsent buf = (cb, .error fail)) ∨
      cb.queueUnsent buf = ({ cb with sender := queued cb.sender buf }, .ok ()) := by
  unfold queueUnsent
  split
  · exact .inl ⟨_, rfl⟩
  · exact .inr rfl

/-- The sender once its earliest segment counts as retransmitted. -/
def retransmitted (sender : Sender) (segment : UnackedSegment) (rest : List UnackedSegment) : Sender :=
  { sender with unackedQueue := { segment with initialTx := none } :: rest }

/-- What `retransmit` can do: nothing, mark the earliest segment, or send it too. -/
theorem retransmit_cases {profile : Profile} {env : Env} {cb cb' : ControlBlock κ ρ}
    (done : cb.retransmit profile env = .ok cb') :
    cb' = cb ∨ ∃ segment rest, cb.sender.unackedQueue = segment :: rest ∧
      (cb'.view = { cb.view with sender := retransmitted cb.sender segment rest } ∨
      ∃ out, Carries out cb.sender.sendUnacked.value segment.bytes (segment.bytes.length == 0) ∧
        cb'.view = { cb.view.emitted out with
          sender := retransmitted cb.sender segment rest }) := by
  unfold retransmit at done
  split at done
  · exact .inl (Except.ok.inj done).symm
  rename_i segment rest queue
  refine .inr ⟨segment, rest, queue, ?_⟩
  dsimp only at done
  split at done
  · cases done
    exact .inl rfl
  · obtain ⟨header, built, done⟩ := bind_ok.mp done
    obtain ⟨acks, -, -⟩ := tcpHeader_ok built
    obtain ⟨out, carried, body, seen⟩ := emit_ok done acks
    refine .inr ⟨out, ⟨by rw [carried], body, by rw [carried]⟩, ?_⟩
    rw [seen]
    rfl

/-- A round of `acknowledger` sends a pure acknowledgement or does nothing. -/
theorem acknowledgerRound_cases {profile : Profile} {env : Env} {cb cb' : ControlBlock κ ρ}
    (done : cb.acknowledgerRound profile env = .ok cb') :
    cb' = cb ∨ cb.sendAck profile env = .ok cb' := by
  unfold acknowledgerRound at done
  split at done
  · exact .inl (Except.ok.inj done).symm
  split at done
  · exact .inl (Except.ok.inj done).symm
  · obtain ⟨acknowledged, sent, done⟩ := bind_ok.mp done
    split at done
    · cases done
    · cases done
      exact .inr sent

variable [CongestionControl κ] [RtoCalculator ρ]

/-- The condition of `Sender::send` for transmitting a buffer at once: nothing
waits, both windows have room for it behind everything outstanding, and the link
address is known. -/
def FastPath (env : Env) (cb : ControlBlock κ ρ) (buf : Buffer) : Prop :=
  let cc := CongestionControl.onCwndCheckBeforeSend env.now cb.cc
  let sentData := (cb.sender.sendNext.value - cb.sender.sendUnacked.value).toU32
  let inFlightAfterSend := (sentData + buf.length) % 2 ^ 32
  cb.sender.unsentQueue = [] ∧ env.linkAddr.isSome = true ∧
  0 < cb.sender.sendWindow.value.toNat ∧
  inFlightAfterSend ≤ cb.sender.sendWindow.value.toNat ∧
  inFlightAfterSend ≤ ((CongestionControl.cwnd cc).value.toNat +
    (CongestionControl.limitedTransmitCwndIncrease cc).value.toNat) % 2 ^ 32

omit [RtoCalculator ρ] in
instance (env : Env) (cb : ControlBlock κ ρ) (buf : Buffer) : Decidable (cb.FastPath env buf) :=
  inferInstanceAs (Decidable (_ ∧ _ ∧ _ ∧ _ ∧ _))

/-- The fast path of `send`. -/
theorem sendImmediate_ok {profile : Profile} {env : Env} {cb cb' : ControlBlock κ ρ} {buf : Buffer}
    {remoteLinkAddr : MacAddress}
    (sent : cb.sendImmediate profile env buf remoteLinkAddr = .ok cb') :
    ∃ segment, Carries segment cb.sender.sendNext.value buf (buf.length == 0) ∧
      cb'.view = { cb.view.emitted segment with
        sender := { cb.sender.after buf env.now (sequenceNumbers buf) with
          unsentSeqNo := cb.sender.unsentSeqNo.set
            (cb.sender.unsentSeqNo.value.advanced (sequenceNumbers buf)) } } := by
  obtain ⟨header, built, rest⟩ := bind_ok.mp sent
  obtain ⟨acks, -, -⟩ := tcpHeader_ok built
  obtain ⟨emitted, emits, rest⟩ := bind_ok.mp rest
  obtain ⟨segment, carried, body, seen⟩ := emit_ok emits acks
  refine ⟨segment, ⟨by rw [carried], body, by rw [carried]⟩, ?_⟩
  have kept : emitted.sender = cb.sender := congrArg View.sender seen
  rw [← Except.ok.inj rest]
  change { emitted.view with
    sender := { emitted.sender.after buf env.now (sequenceNumbers buf) with
      unsentSeqNo := emitted.sender.unsentSeqNo.set
        (emitted.sender.unsentSeqNo.value.advanced (sequenceNumbers buf)) } } = _
  rw [kept, seen]
  rfl

/-- What `send` can do: refuse, queue on the slow path, or transmit on the fast one. -/
theorem send_cases {profile : Profile} {env : Env} {cb cb' : ControlBlock κ ρ} {buf : Buffer}
    {result : Except Fail Unit} (sent : cb.send profile env buf = .ok (cb', result)) :
    (∃ fail, result = .error fail ∧ cb'.view = cb.view) ∨
    (cb.userIsDoneSending = false ∧ ¬ cb.FastPath env buf ∧ result = .ok () ∧
      cb'.view = { cb.view with sender := queued cb.sender buf }) ∨
    (cb.userIsDoneSending = false ∧ cb.FastPath env buf ∧ result = .ok () ∧ ∃ segment,
      Carries segment cb.sender.sendNext.value buf (buf.length == 0) ∧
      cb'.view = { cb.view.emitted segment with
        sender := { cb.sender.after buf env.now (sequenceNumbers buf) with
          unsentSeqNo := cb.sender.unsentSeqNo.set
            (cb.sender.unsentSeqNo.value.advanced (sequenceNumbers buf)) } }) := by
  unfold send at sent
  split at sent
  · cases sent
    exact .inl ⟨_, rfl, rfl⟩
  rename_i active
  split at sent
  · cases sent
    exact .inl ⟨_, rfl, rfl⟩
  have done : cb.userIsDoneSending = false := Bool.eq_false_iff.mpr active
  -- All ways into the slow path end alike, up to congestion control.
  have slow {cb₀ : ControlBlock κ ρ} (path : ¬ cb.FastPath env buf) (like : cb₀.view = cb.view)
      (queues : Except.ok (cb₀.queueUnsent buf) = (.ok (cb', result) : Checked _)) :
      (∃ fail, result = .error fail ∧ cb'.view = cb.view) ∨
      (cb.userIsDoneSending = false ∧ ¬ cb.FastPath env buf ∧ result = .ok () ∧
        cb'.view = { cb.view with sender := queued cb.sender buf }) := by
    have sender : cb₀.sender = cb.sender := congrArg View.sender like
    obtain ⟨fail, refused⟩ | accepted := queueUnsent_cases cb₀ buf
    · rw [refused] at queues
      cases queues
      exact .inl ⟨fail, rfl, like⟩
    · rw [accepted] at queues
      cases queues
      refine .inr ⟨done, path, rfl, ?_⟩
      rw [← like, ← sender]
      rfl
  rw [← or_assoc]
  split at sent
  · rename_i waiting
    exact .inl (slow (fun fast => waiting fast.1) rfl sent)
  rename_i waiting
  have empty : cb.sender.unsentQueue = [] := Decidable.not_not.mp waiting
  obtain ⟨inFlight, added, sent⟩ := bind_ok.mp sent
  obtain ⟨effectiveCwnd, added', sent⟩ := bind_ok.mp sent
  cases addU32_ok added
  cases addU32_ok added'
  dsimp only at sent
  split at sent
  · rename_i room
    split at sent
    · rename_i known
      obtain ⟨emitted, immediate, sent⟩ := bind_ok.mp sent
      cases sent
      obtain ⟨segment, carries, seen⟩ := sendImmediate_ok immediate
      exact .inr ⟨done, ⟨empty, by rw [known]; rfl, room⟩, rfl, segment, carries, seen⟩
    · rename_i unknown
      refine .inl (slow (fun fast => ?_) (by rfl) sent)
      have known := fast.2.1
      rw [unknown] at known
      cases known
  · rename_i closed
    exact .inl (slow (fun fast => closed fast.2.2) (by rfl) sent)

/-- What `close` can do: nothing the second time; else queue the FIN or send it. -/
theorem close_cases {profile : Profile} {env : Env} {cb cb' : ControlBlock κ ρ}
    (closed : cb.close profile env = .ok cb') :
    (cb.userIsDoneSending = true ∧ cb' = cb) ∨
    (cb.userIsDoneSending = false ∧ ¬ cb.FastPath env [] ∧
      cb'.view = { cb.view with sender := queued cb.sender [], userIsDoneSending := true }) ∨
    (cb.userIsDoneSending = false ∧ cb.FastPath env [] ∧ ∃ segment,
      Carries segment cb.sender.sendNext.value [] true ∧
      cb'.view = { cb.view.emitted segment with
        sender := { cb.sender.after [] env.now 1 with
          unsentSeqNo := cb.sender.unsentSeqNo.set (cb.sender.unsentSeqNo.value.advanced 1) }
        userIsDoneSending := true }) := by
  unfold close at closed
  split at closed
  · rename_i done
    exact .inl ⟨done, (Except.ok.inj closed).symm⟩
  rename_i active
  have done : cb.userIsDoneSending = false := Bool.eq_false_iff.mpr active
  obtain ⟨-, -, closed⟩ := bind_ok.mp closed
  obtain ⟨⟨after, result⟩, sent, closed⟩ := bind_ok.mp closed
  right
  obtain ⟨fail, rfl, -⟩ | ⟨-, path, rfl, seen⟩ | ⟨-, path, rfl, segment, carries, seen⟩ :=
    send_cases sent
  · cases closed
  · cases closed
    refine .inl ⟨done, path, ?_⟩
    change { after.view with userIsDoneSending := true } = _
    rw [seen]
    rfl
  · cases closed
    refine .inr ⟨done, path, segment, carries, ?_⟩
    change { after.view with userIsDoneSending := true } = _
    rw [seen]
    rfl

/-- A round of `retransmitter` retransmits or leaves the connection alone. -/
theorem retransmitterRound_cases {profile : Profile} {env : Env} {cb cb' : ControlBlock κ ρ}
    (done : cb.retransmitterRound profile env = .ok cb') :
    cb'.view = cb.view ∨ ∃ before after : ControlBlock κ ρ,
      before.retransmit profile env = .ok after ∧ before.view = cb.view ∧ after.view = cb'.view := by
  unfold retransmitterRound at done
  split at done
  · exact .inr ⟨_, cb', done, rfl, rfl⟩
  split at done
  · cases done
    exact .inl rfl
  split at done
  · cases done
    exact .inl rfl
  · obtain ⟨after, sent, done⟩ := bind_ok.mp done
    cases done
    exact .inr ⟨_, after, sent, rfl, rfl⟩

end ControlBlock

/-! ## The coroutine `sender` -/

namespace SenderTask

open ControlBlock

/-- A window probe takes one byte from the front of the unsent queue. -/
theorem sendProbe_ok {profile : Profile} {env : Env} {cb cb' : ControlBlock κ ρ}
    {sendNext : SeqNumber} {remoteLinkAddr : MacAddress} {task : SenderTask}
    (sent : sendProbe profile env cb sendNext remoteLinkAddr = .ok (task, cb')) :
    ∃ byte buf rest segment changes, cb.sender.unsentQueue = (byte :: buf) :: rest ∧
      task = .persist sendNext [byte] remoteLinkAddr changes 1000000000 (env.now + 1000000000) ∧
      Carries segment sendNext [byte] false ∧
      cb'.view = { cb.view.emitted segment with
        sender := { cb.sender.after [byte] env.now 1 with unsentQueue := buf :: rest } } := by
  obtain ⟨popped, pops, sent⟩ := bind_ok.mp sent
  cases queue : cb.sender.unsentQueue with
  | nil =>
    rw [queue] at pops
    cases pops
    cases sent
  | cons front rest =>
    rw [queue, Sender.popOneUnsentByte] at pops
    obtain ⟨remaining, adjusts, pops⟩ := bind_ok.mp pops
    obtain ⟨cloned, trims, pops⟩ := bind_ok.mp pops
    obtain ⟨enough, rfl⟩ := Buffer.adjust_ok adjusts
    obtain ⟨-, rfl⟩ := Buffer.trim_ok trims
    cases pops
    cases front with
    | nil => cases enough
    | cons byte buf =>
      obtain ⟨header, built, sent⟩ := bind_ok.mp sent
      obtain ⟨acks, plain, -⟩ := tcpHeader_ok built
      obtain ⟨emitted, emits, sent⟩ := bind_ok.mp sent
      obtain ⟨segment, carried, body, seen⟩ := emit_ok emits acks
      have one : (byte :: buf).take ((byte :: buf).length - ((byte :: buf).length - 1)) = [byte] := by
        simp
      rw [one] at body seen sent
      cases sent
      refine ⟨byte, buf, rest, segment, _, rfl, rfl, ⟨by rw [carried], body, by rw [carried, ← plain]⟩, ?_⟩
      rw [seen]
      rfl

variable [CongestionControl κ] [RtoCalculator ρ]

/-- A normal segment takes up to `maxSize` bytes from the front buffer. -/
theorem sendSegment_ok {profile : Profile} {env : Env} {cb cb' : ControlBlock κ ρ}
    {sendNext : SeqNumber} {winSz sentData effectiveCwnd : Nat} {remoteLinkAddr : MacAddress}
    {task : SenderTask}
    (sent : sendSegment profile env cb sendNext winSz sentData effectiveCwnd remoteLinkAddr =
      .ok (task, cb')) :
    ∃ windowRoom cwndRoom front rest segment, subU32 profile winSz sentData = .ok windowRoom ∧
      subU32 profile effectiveCwnd sentData = .ok cwndRoom ∧
      cb.sender.unsentQueue = front :: rest ∧ task = .top ∧
      let maxSize := min (min windowRoom cb.sender.mss) cwndRoom
      Carries segment sendNext (front.take maxSize) ((front.take maxSize).length == 0) ∧
      cb'.view = { cb.view.emitted segment with
        sender := { cb.sender.after (front.take maxSize) env.now
            (sequenceNumbers (front.take maxSize)) with
          unsentQueue := if front.length > maxSize then front.drop maxSize :: rest else rest } } := by
  obtain ⟨windowRoom, windowRooms, sent⟩ := bind_ok.mp sent
  obtain ⟨cwndRoom, cwndRooms, sent⟩ := bind_ok.mp sent
  obtain ⟨popped, pops, sent⟩ := bind_ok.mp sent
  cases queue : cb.sender.unsentQueue with
  | nil =>
    rw [queue] at pops
    cases pops
    cases sent
  | cons front rest =>
    have taken : ∃ doPush, popped = some (front.take (min (min windowRoom cb.sender.mss) cwndRoom),
        doPush, if front.length > min (min windowRoom cb.sender.mss) cwndRoom then
          front.drop (min (min windowRoom cb.sender.mss) cwndRoom) :: rest else rest) := by
      rw [queue, Sender.popUnsent] at pops
      split at pops
      · rename_i long
        obtain ⟨remaining, adjusts, pops⟩ := bind_ok.mp pops
        obtain ⟨cloned, trims, pops⟩ := bind_ok.mp pops
        obtain ⟨-, rfl⟩ := Buffer.adjust_ok adjusts
        obtain ⟨-, rfl⟩ := Buffer.trim_ok trims
        cases pops
        rw [if_pos long, Nat.sub_sub_self (Nat.le_of_lt long)]
        exact ⟨false, rfl⟩
      · rename_i whole
        cases pops
        rw [if_neg whole, List.take_of_length_le (Nat.not_lt.mp whole)]
        exact ⟨true, rfl⟩
    obtain ⟨doPush, rfl⟩ := taken
    obtain ⟨header, built, sent⟩ := bind_ok.mp sent
    obtain ⟨acks, -, -⟩ := tcpHeader_ok built
    obtain ⟨-, -, sent⟩ := bind_ok.mp sent
    obtain ⟨emitted, emits, sent⟩ := bind_ok.mp sent
    obtain ⟨segment, carried, body, seen⟩ := emit_ok emits acks
    have kept : emitted.sender = { cb.sender with
        unsentQueue := if front.length > min (min windowRoom cb.sender.mss) cwndRoom then
          front.drop (min (min windowRoom cb.sender.mss) cwndRoom) :: rest else rest } :=
      congrArg View.sender seen
    cases sent
    refine ⟨windowRoom, cwndRoom, front, rest, segment, windowRooms, cwndRooms, rfl, rfl,
      ⟨by rw [carried], body, by rw [carried]⟩, ?_⟩
    change { emitted.view with
      sender := emitted.sender.after (front.take (min (min windowRoom cb.sender.mss) cwndRoom)) env.now
        (sequenceNumbers (front.take (min (min windowRoom cb.sender.mss) cwndRoom))) } = _
    rw [kept, seen]
    rfl

/-- The suspension points at which the coroutine holds nothing it has read. -/
def holdsNothing : SenderTask → Bool
  | .top | .idle _ _ | .blocked _ _ _ _ _ | .returned => true
  | _ => false

/-- What the coroutine has read and checked when it asks for a link address. -/
inductive Captured (profile : Profile) (cb : ControlBlock κ ρ) : SenderTask → Prop where
  | probe (unsent : cb.sender.sendNext.value ≠ cb.sender.unsentSeqNo.value)
      (closed : cb.sender.sendWindow.value.toNat = 0) :
      Captured profile cb (.queryProbe cb.sender.sendNext.value)
  | send {front : Buffer} {rest : List Buffer} {needed effectiveCwnd : Nat}
      (unsent : cb.sender.sendNext.value ≠ cb.sender.unsentSeqNo.value)
      (queue : cb.sender.unsentQueue = front :: rest)
      (sum : addU32 profile (cb.sender.sendNext.value - cb.sender.sendUnacked.value).toU32
        (asU32 front.length) = .ok needed)
      (windowRoom : needed < cb.sender.sendWindow.value.toNat)
      (cwndRoom : (cb.sender.sendNext.value - cb.sender.sendUnacked.value).toU32 < effectiveCwnd) :
      Captured profile cb (.querySend cb.sender.sendNext.value cb.sender.sendWindow.value.toNat
        (cb.sender.sendNext.value - cb.sender.sendUnacked.value).toU32 effectiveCwnd)

/-- From the head of the loop the coroutine goes to wait, or goes on from what
it has captured. -/
theorem fromTop_cases {profile : Profile} {env : Env} {reply : ArpReply}
    {cb cb' : ControlBlock κ ρ} {task : SenderTask}
    (done : fromTop profile env reply cb = .ok (task, cb')) :
    (cb'.view = cb.view ∧ task.holdsNothing = true) ∨
    ∃ captured before, captured.round profile env reply before = .ok (task, cb') ∧
      Captured profile cb captured ∧ before.view = cb.view := by
  unfold fromTop at done
  dsimp only at done
  split at done
  · cases done
    exact .inl ⟨rfl, rfl⟩
  rename_i unsent
  split at done
  · rename_i closed
    refine .inr ⟨.queryProbe cb.sender.sendNext.value, cb, ?_, .probe unsent closed, rfl⟩
    rw [← done]
    cases reply <;> rfl
  obtain ⟨effectiveCwnd, -, done⟩ := bind_ok.mp done
  cases queue : cb.sender.unsentQueue with
  | nil =>
    simp only [Sender.topSizeUnsent, queue] at done
    cases done
  | cons front rest =>
    simp only [Sender.topSizeUnsent, queue] at done
    obtain ⟨needed, sum, done⟩ := bind_ok.mp done
    split at done
    · cases done
      exact .inl ⟨rfl, rfl⟩
    · rename_i room
      have windowRoom : needed < cb.sender.sendWindow.value.toNat := by omega
      have cwndRoom : (cb.sender.sendNext.value - cb.sender.sendUnacked.value).toU32 <
          effectiveCwnd := by omega
      refine .inr ⟨_, { cb with cc := CongestionControl.onCwndCheckBeforeSend env.now cb.cc }, ?_,
        .send unsent queue sum windowRoom cwndRoom, rfl⟩
      rw [← done]
      cases reply <;> rfl

/-- What a round of the coroutine can do: read and wait, send a probe, send a
segment, or repeat the probe. -/
theorem round_cases {profile : Profile} {env : Env} {reply : ArpReply} {task task' : SenderTask}
    {cb cb' : ControlBlock κ ρ} (done : task.round profile env reply cb = .ok (task', cb')) :
    (cb'.view = cb.view ∧
      (task' = task ∨ task'.holdsNothing = true ∨ Captured profile cb task')) ∨
    (∃ sendNext remoteLinkAddr before, reply = .resolved remoteLinkAddr ∧
      sendProbe profile env before sendNext remoteLinkAddr = .ok (task', cb') ∧
      before.view = cb.view ∧
      (task = .queryProbe sendNext ∨ (task = .top ∧ Captured profile cb (.queryProbe sendNext)))) ∨
    (∃ sendNext winSz sentData effectiveCwnd remoteLinkAddr before,
      sendSegment profile env before sendNext winSz sentData effectiveCwnd remoteLinkAddr =
        .ok (task', cb') ∧
      before.view = cb.view ∧
      (task = .querySend sendNext winSz sentData effectiveCwnd ∨
        Captured profile cb (.querySend sendNext winSz sentData effectiveCwnd))) ∨
    (∃ sendNext buf remoteLinkAddr changes timeout deadline timeout' deadline' segment,
      task = .persist sendNext buf remoteLinkAddr changes timeout deadline ∧
      task' = .persist sendNext buf remoteLinkAddr changes timeout' deadline' ∧
      Carries segment sendNext buf false ∧ cb'.view = cb.view.emitted segment) := by
  -- The two tasks that wait for a link address, entered now or earlier.
  have probe {sendNext : SeqNumber} {before : ControlBlock κ ρ}
      (done : (SenderTask.queryProbe sendNext).round profile env reply before = .ok (task', cb'))
      (like : before.view = cb.view) :
      (cb'.view = cb.view ∧ (task' = .queryProbe sendNext ∨ task'.holdsNothing = true)) ∨
      ∃ remoteLinkAddr, reply = .resolved remoteLinkAddr ∧
        sendProbe profile env before sendNext remoteLinkAddr = .ok (task', cb') := by
    cases reply with
    | pending => cases done; exact .inl ⟨like, .inl rfl⟩
    | failed => cases done; exact .inl ⟨like, .inr rfl⟩
    | resolved remoteLinkAddr => exact .inr ⟨remoteLinkAddr, rfl, done⟩
  have normal {sendNext : SeqNumber} {winSz sentData effectiveCwnd : Nat}
      {before : ControlBlock κ ρ}
      (done : (SenderTask.querySend sendNext winSz sentData effectiveCwnd).round profile env reply
        before = .ok (task', cb')) (like : before.view = cb.view) :
      (cb'.view = cb.view ∧ (task' = .querySend sendNext winSz sentData effectiveCwnd ∨
        task'.holdsNothing = true)) ∨
      ∃ remoteLinkAddr, sendSegment profile env before sendNext winSz sentData effectiveCwnd
        remoteLinkAddr = .ok (task', cb') := by
    cases reply with
    | pending => cases done; exact .inl ⟨like, .inl rfl⟩
    | failed => cases done; exact .inl ⟨like, .inr rfl⟩
    | resolved remoteLinkAddr => exact .inr ⟨remoteLinkAddr, done⟩
  cases task with
  | top =>
    obtain ⟨like, idle⟩ | ⟨captured, before, resumed, read, like⟩ := fromTop_cases done
    · exact .inl ⟨like, .inr (.inl idle)⟩
    cases read with
    | probe unsent closed =>
      obtain ⟨seen, rfl | idle⟩ | ⟨remoteLinkAddr, known, sent⟩ := probe resumed like
      · exact .inl ⟨seen, .inr (.inr (.probe unsent closed))⟩
      · exact .inl ⟨seen, .inr (.inl idle)⟩
      · exact .inr (.inl ⟨_, remoteLinkAddr, before, known, sent, like,
          .inr ⟨rfl, .probe unsent closed⟩⟩)
    | send unsent queue sum windowRoom cwndRoom =>
      obtain ⟨seen, rfl | idle⟩ | ⟨remoteLinkAddr, sent⟩ := normal resumed like
      · exact .inl ⟨seen, .inr (.inr (.send unsent queue sum windowRoom cwndRoom))⟩
      · exact .inl ⟨seen, .inr (.inl idle)⟩
      · exact .inr (.inr (.inl ⟨_, _, _, _, remoteLinkAddr, before, sent, like,
          .inr (.send unsent queue sum windowRoom cwndRoom)⟩))
  | idle unsentSeqChanges sendNextChanges =>
    simp only [round] at done
    split at done <;> cases done
    · exact .inl ⟨rfl, .inr (.inl rfl)⟩
    · exact .inl ⟨rfl, .inl rfl⟩
  | queryProbe sendNext =>
    obtain ⟨seen, same | idle⟩ | ⟨remoteLinkAddr, known, sent⟩ := probe done rfl
    · exact .inl ⟨seen, .inl same⟩
    · exact .inl ⟨seen, .inr (.inl idle)⟩
    · exact .inr (.inl ⟨sendNext, remoteLinkAddr, cb, known, sent, rfl, .inl rfl⟩)
  | persist sendNext buf remoteLinkAddr windowChanges timeout deadline =>
    simp only [round] at done
    split at done
    · cases done
      exact .inl ⟨rfl, .inr (.inl rfl)⟩
    split at done
    · cases done
      exact .inl ⟨rfl, .inl rfl⟩
    · obtain ⟨header, built, done⟩ := bind_ok.mp done
      obtain ⟨acks, plain, -⟩ := tcpHeader_ok built
      obtain ⟨emitted, emits, done⟩ := bind_ok.mp done
      obtain ⟨segment, carried, body, seen⟩ := emit_ok emits acks
      cases done
      exact .inr (.inr (.inr ⟨sendNext, buf, remoteLinkAddr, windowChanges, timeout, deadline, _, _,
        segment, rfl, rfl, ⟨by rw [carried], body, by rw [carried, ← plain]⟩, seen⟩))
  | blocked sendUnackedChanges sendNextChanges windowChanges cwndChanges ltciChanges =>
    simp only [round] at done
    split at done <;> cases done
    · exact .inl ⟨rfl, .inr (.inl rfl)⟩
    · exact .inl ⟨rfl, .inl rfl⟩
  | querySend sendNext winSz sentData effectiveCwnd =>
    obtain ⟨seen, same | idle⟩ | ⟨remoteLinkAddr, sent⟩ := normal done rfl
    · exact .inl ⟨seen, .inl same⟩
    · exact .inl ⟨seen, .inr (.inl idle)⟩
    · exact .inr (.inr (.inl ⟨sendNext, winSz, sentData, effectiveCwnd, remoteLinkAddr, cb, sent, rfl,
        .inl rfl⟩))
  | returned =>
    cases done
    exact .inl ⟨rfl, .inl rfl⟩

end SenderTask

/-! ## All actions that do not touch the receiving side -/

/-- What a step other than an arriving segment and a read can do to the view. -/
inductive View.Sends (view : View) : View → Prop where
  | quiet : Sends view view
  | acknowledges {acks : List TcpSegment} (pure : PureAcks acks) :
      Sends view { view with transmitted := view.transmitted ++ acks }
  | queues (buf : Buffer) (userIsDoneSending : Bool) (active : view.userIsDoneSending = false) :
      Sends view { view with sender := ControlBlock.queued view.sender buf, userIsDoneSending }
  | immediate (buf : Buffer) (userIsDoneSending : Bool) (now : Instant) {segment : TcpSegment}
      (active : view.userIsDoneSending = false) (empty : view.sender.unsentQueue = [])
      (carries : Carries segment view.sender.sendNext.value buf (buf.length == 0)) :
      Sends view { view.emitted segment with
        sender := { view.sender.after buf now (sequenceNumbers buf) with
          unsentSeqNo := view.sender.unsentSeqNo.set
            (view.sender.unsentSeqNo.value.advanced (sequenceNumbers buf)) }
        userIsDoneSending }
  | probes (now : Instant) {sendNext : SeqNumber} {byte : UInt8} {buf : Buffer} {rest : List Buffer}
      {segment : TcpSegment} (queue : view.sender.unsentQueue = (byte :: buf) :: rest)
      (carries : Carries segment sendNext [byte] false) :
      Sends view { view.emitted segment with
        sender := { view.sender.after [byte] now 1 with unsentQueue := buf :: rest } }
  | departs (now : Instant) (maxSize : Nat) {sendNext : SeqNumber} {front : Buffer}
      {rest : List Buffer} {segment : TcpSegment} (queue : view.sender.unsentQueue = front :: rest)
      (carries : Carries segment sendNext (front.take maxSize) ((front.take maxSize).length == 0)) :
      Sends view { view.emitted segment with
        sender := { view.sender.after (front.take maxSize) now
            (sequenceNumbers (front.take maxSize)) with
          unsentQueue := if front.length > maxSize then front.drop maxSize :: rest else rest } }
  | repeats {sendNext : SeqNumber} {buf : Buffer} {segment : TcpSegment}
      (carries : Carries segment sendNext buf false) : Sends view (view.emitted segment)
  | marks {segment : UnackedSegment} {rest : List UnackedSegment}
      (queue : view.sender.unackedQueue = segment :: rest) :
      Sends view { view with sender := ControlBlock.retransmitted view.sender segment rest }
  | retransmits {segment : UnackedSegment} {rest : List UnackedSegment} {out : TcpSegment}
      (queue : view.sender.unackedQueue = segment :: rest)
      (carries : Carries out view.sender.sendUnacked.value segment.bytes
        (segment.bytes.length == 0)) :
      Sends view { view.emitted out with
        sender := ControlBlock.retransmitted view.sender segment rest }

variable [CongestionControl κ] [RtoCalculator ρ]

/-- The actions that send or acknowledge. -/
def Action.sends : Action → Bool
  | .receive _ _ _ | .pollRecv _ => false
  | _ => true

/-- Sending, closing and the coroutines do nothing else to the view. -/
theorem Connection.step_sends {profile : Profile} {source target : Connection κ ρ}
    {action : Action} (sends : action.sends = true)
    (advanced : source.step profile action = .ok target) :
    source.cb.view.Sends target.cb.view := by
  cases action with
  | receive env header data => cases sends
  | pollRecv waker => cases sends
  | send env buf =>
    obtain ⟨⟨cb, result⟩, sent, advanced⟩ := bind_ok.mp advanced
    cases advanced
    obtain ⟨-, -, seen⟩ | ⟨active, -, -, seen⟩ | ⟨active, path, -, segment, carries, seen⟩ :=
      ControlBlock.send_cases sent
    · rw [seen]; exact .quiet
    · rw [seen]; exact .queues buf _ active
    · rw [seen]; exact .immediate buf _ env.now active path.1 carries
  | close env =>
    obtain ⟨cb, closed, advanced⟩ := bind_ok.mp advanced
    cases advanced
    obtain ⟨-, rfl⟩ | ⟨active, -, seen⟩ | ⟨active, path, segment, carries, seen⟩ :=
      ControlBlock.close_cases closed
    · exact .quiet
    · rw [seen]; exact .queues [] true active
    · rw [seen]; exact .immediate [] true env.now active path.1 carries
  | senderRound env reply =>
    obtain ⟨⟨task, cb⟩, done, advanced⟩ := bind_ok.mp advanced
    cases advanced
    obtain ⟨seen, -⟩ | ⟨_, _, before, -, sent, like, -⟩ | ⟨_, _, _, _, _, before, sent, like, -⟩ |
      ⟨_, _, _, _, _, _, _, _, segment, -, -, carries, seen⟩ := SenderTask.round_cases done
    · rw [seen]; exact .quiet
    · obtain ⟨_, _, _, segment, _, queue, -, carries, seen⟩ := SenderTask.sendProbe_ok sent
      rw [seen, ← like]
      exact .probes env.now queue carries
    · obtain ⟨_, _, _, _, segment, -, -, queue, -, carries, seen⟩ := SenderTask.sendSegment_ok sent
      rw [seen, ← like]
      exact .departs env.now _ queue carries
    · rw [seen]; exact .repeats carries
  | retransmitterRound env =>
    obtain ⟨cb, done, advanced⟩ := bind_ok.mp advanced
    cases advanced
    obtain ⟨-, rfl⟩ | ⟨-, done⟩ := backgroundRound_cases done
    · exact .quiet
    obtain seen | ⟨before, after, sent, like, like'⟩ := ControlBlock.retransmitterRound_cases done
    · rw [seen]; exact .quiet
    rw [← like, ← like']
    obtain rfl | ⟨_, _, queue, seen | ⟨segment, carries, seen⟩⟩ := ControlBlock.retransmit_cases sent
    · exact .quiet
    · rw [seen]; exact .marks queue
    · rw [seen]; exact .retransmits queue carries
  | acknowledgerRound env =>
    obtain ⟨cb, done, advanced⟩ := bind_ok.mp advanced
    cases advanced
    obtain ⟨-, rfl⟩ | ⟨-, done⟩ := backgroundRound_cases done
    · exact .quiet
    obtain rfl | sent := ControlBlock.acknowledgerRound_cases done
    · exact .quiet
    obtain ⟨-, acks, pure, seen⟩ := ControlBlock.sendAck_ok sent
    rw [seen]
    exact .acknowledges pure

/-- A view with the same receiving side, nothing more acknowledged, the peer's window
scale, and at most a FIN sent. -/
structure View.Undisturbed (before after : View) : Prop where
  reception : after.reception = before.reception
  state : after.state = before.state ∨ after.state = ControlBlock.stateAfterFinSent before.state
  unacked : after.sender.sendUnacked = before.sender.sendUnacked
  scale : after.sender.windowScale = before.sender.windowScale

omit [CongestionControl κ] [RtoCalculator ρ] in
/-- The state after a segment is emitted. -/
theorem View.emitted_state (view : View) (segment : TcpSegment) :
    (view.emitted segment).state = view.state ∨
      (view.emitted segment).state = ControlBlock.stateAfterFinSent view.state := by
  simp only [View.emitted]
  split
  · exact .inr rfl
  · exact .inl rfl

omit [CongestionControl κ] [RtoCalculator ρ] in
/-- What only sends disturbs nothing. -/
theorem View.Sends.undisturbed {view view' : View} (sends : view.Sends view') :
    view.Undisturbed view' := by
  cases sends with
  | quiet | acknowledges | queues | marks => exact ⟨rfl, .inl rfl, rfl, rfl⟩
  | immediate | probes | departs | repeats | retransmits =>
    exact ⟨rfl, view.emitted_state _, rfl, rfl⟩

/-- Sending, closing and the coroutines leave the receiving side alone. -/
theorem Connection.step_undisturbed {profile : Profile} {source target : Connection κ ρ}
    {action : Action} (sends : action.sends = true)
    (advanced : source.step profile action = .ok target) :
    source.cb.view.Undisturbed target.cb.view :=
  (step_sends sends advanced).undisturbed

end Capybara
