import Capybara.Ip.Datagram
import Capybara.Tcp.Established.SendWindow
import Capybara.Tcp.SegmentCodec

/-!
# The size of segments

The coroutine cuts what it takes from the unsent queue to the maximum segment size; the
fast path of `Sender::send` transmits the buffer it is given. What has left is
retransmitted as it was. So every segment keeps to the maximum segment size exactly if
every buffer that takes the fast path does, and then the total length that the network
header carries is right if the maximum segment size leaves room for both headers.
-/

namespace Capybara

namespace TcpSegment

/-- `body_size`. -/
def bodySize (segment : TcpSegment) : Nat :=
  match segment.data with
  | some buf => buf.length
  | none => 0

/-- The length that `write_header` passes to the network header. -/
def ipv4PayloadLen (segment : TcpSegment) : Nat := segment.tcpHdr.computeSize + segment.bodySize

/-- The total length of the segment fits the field that carries it. -/
def LengthFits (profile : Profile) (segment : TcpSegment) : Prop :=
  Ipv4Header.totalLength profile segment.ipv4PayloadLen =
    .ok (IPV4_HEADER_MIN_SIZE + segment.ipv4PayloadLen)

/-- A segment without options has room for 65495 bytes. -/
theorem lengthFits_of_size {profile : Profile} {segment : TcpSegment}
    (plain : segment.tcpHdr.options = []) (small : segment.bodySize ≤ 65495) :
    segment.LengthFits profile := by
  have header : segment.tcpHdr.computeSize = 20 := by
    simp [TcpHeader.computeSize, plain, MIN_TCP_HEADER_SIZE]
  have fits : IPV4_HEADER_MIN_SIZE + segment.ipv4PayloadLen < 2 ^ 16 := by
    unfold ipv4PayloadLen IPV4_HEADER_MIN_SIZE
    omega
  rw [LengthFits, Ipv4Header.totalLength, Nat.mod_eq_of_lt (by omega), addU16, if_pos fits]

/-- A segment that carries given bytes is as large as these. -/
theorem bodySize_of_carries {segment : TcpSegment} {seqNum : SeqNumber} {bytes : Buffer} {fin : Bool}
    (carries : Carries segment seqNum bytes fin) : segment.bodySize = bytes.length := by
  rw [bodySize, carries.body]

end TcpSegment

variable {κ ρ : Type}

/-! ## Headers of data segments -/

namespace ControlBlock

/-- Segments with a body have no options. -/
def Plain (cb : ControlBlock κ ρ) : Prop :=
  ∀ segment ∈ cb.transmitted, segment.data ≠ none → segment.tcpHdr.options = []

variable {profile : Profile} {env : Env} {cb cb' : ControlBlock κ ρ}

/-- The headers of a connection have no options. -/
theorem tcpHeader_options {header : TcpHeader} (built : cb.tcpHeader profile = .ok header) :
    header.options = [] := by
  obtain ⟨size, -, built⟩ := bind_ok.mp built
  cases built
  rfl

/-- What is emitted with a header without options. -/
theorem emit_plain {header : TcpHeader} {body : Option Buffer} {remoteLinkAddr : MacAddress}
    (emits : cb.emit profile header body remoteLinkAddr = .ok cb') (options : header.options = [])
    (plain : cb.Plain) : cb'.Plain := by
  obtain ⟨-, -, emits⟩ := bind_ok.mp emits
  cases emits
  intro segment member
  obtain member | member := List.mem_append.mp member
  · exact plain segment member
  · obtain rfl := List.mem_singleton.mp member
    intro _
    exact options

/-- Data that is queued adds no segment. -/
theorem queueUnsent_plain (buf : Buffer) (plain : cb.Plain) : (cb.queueUnsent buf).1.Plain := by
  unfold queueUnsent
  split
  · exact plain
  · exact plain

variable [CongestionControl κ] [RtoCalculator ρ]

/-- Data that is sent at once adds a segment without options. -/
theorem sendImmediate_plain {buf : Buffer} {remoteLinkAddr : MacAddress}
    (sent : cb.sendImmediate profile env buf remoteLinkAddr = .ok cb') (plain : cb.Plain) :
    cb'.Plain := by
  obtain ⟨header, built, sent⟩ := bind_ok.mp sent
  obtain ⟨emitted, emits, sent⟩ := bind_ok.mp sent
  have options := tcpHeader_options built
  have kept : emitted.Plain := emit_plain emits options plain
  cases sent
  exact kept

/-- So does a send. -/
theorem send_plain {buf : Buffer} {result : Except Fail Unit}
    (sent : cb.send profile env buf = .ok (cb', result)) (plain : cb.Plain) : cb'.Plain := by
  have queues {before : ControlBlock κ ρ}
      (sent : (.ok (before.queueUnsent buf) : Checked _) = .ok (cb', result))
      (like : before.Plain) : cb'.Plain := by
    have same : (before.queueUnsent buf).1 = cb' := congrArg Prod.fst (Except.ok.inj sent)
    rw [← same]
    exact queueUnsent_plain buf like
  unfold send at sent
  split at sent
  · cases sent
    exact plain
  split at sent
  · cases sent
    exact plain
  split at sent
  · exact queues sent plain
  obtain ⟨inFlight, -, sent⟩ := bind_ok.mp sent
  obtain ⟨effectiveCwnd, -, sent⟩ := bind_ok.mp sent
  dsimp only at sent
  split at sent
  · split at sent
    · obtain ⟨after, immediate, sent⟩ := bind_ok.mp sent
      cases sent
      exact sendImmediate_plain immediate plain
    · exact queues sent plain
  · exact queues sent plain

/-- So does a close. -/
theorem close_plain (closed : cb.close profile env = .ok cb') (plain : cb.Plain) : cb'.Plain := by
  unfold close at closed
  split at closed
  · cases closed
    exact plain
  obtain ⟨-, -, closed⟩ := bind_ok.mp closed
  obtain ⟨⟨after, result⟩, sent, closed⟩ := bind_ok.mp closed
  have kept : after.Plain := send_plain sent plain
  cases result with
  | error failure => cases closed
  | ok =>
    cases closed
    exact kept

omit [CongestionControl κ] [RtoCalculator ρ] in
/-- So does a retransmission. -/
theorem retransmit_plain (done : cb.retransmit profile env = .ok cb') (plain : cb.Plain) :
    cb'.Plain := by
  unfold retransmit at done
  split at done
  · cases done
    exact plain
  dsimp only at done
  split at done
  · cases done
    exact plain
  · obtain ⟨header, built, done⟩ := bind_ok.mp done
    have options := tcpHeader_options built
    exact emit_plain done options plain

/-- So does a round of the retransmitter. -/
theorem retransmitterRound_plain (done : cb.retransmitterRound profile env = .ok cb')
    (plain : cb.Plain) : cb'.Plain := by
  unfold retransmitterRound at done
  split at done
  · exact retransmit_plain done plain
  split at done
  · cases done
    exact plain
  split at done
  · cases done
    exact plain
  · obtain ⟨after, sent, done⟩ := bind_ok.mp done
    have kept : after.Plain := retransmit_plain sent plain
    cases done
    exact kept

end ControlBlock

namespace SenderTask

open ControlBlock

variable {profile : Profile} {env : Env} {cb cb' : ControlBlock κ ρ} {task task' : SenderTask}

/-- So does a probe. -/
theorem sendProbe_plain {sendNext : SeqNumber} {remoteLinkAddr : MacAddress}
    (sent : sendProbe profile env cb sendNext remoteLinkAddr = .ok (task, cb')) (plain : cb.Plain) :
    cb'.Plain := by
  obtain ⟨popped, -, sent⟩ := bind_ok.mp sent
  cases popped with
  | none => cases sent
  | some popped =>
    obtain ⟨header, built, sent⟩ := bind_ok.mp sent
    obtain ⟨emitted, emits, sent⟩ := bind_ok.mp sent
    have options := tcpHeader_options built
    have kept : emitted.Plain := emit_plain emits options plain
    cases sent
    exact kept

variable [CongestionControl κ] [RtoCalculator ρ]

/-- So does a segment of the coroutine. -/
theorem sendSegment_plain {sendNext : SeqNumber} {winSz sentData effectiveCwnd : Nat}
    {remoteLinkAddr : MacAddress}
    (sent : sendSegment profile env cb sendNext winSz sentData effectiveCwnd remoteLinkAddr =
      .ok (task, cb')) (plain : cb.Plain) : cb'.Plain := by
  obtain ⟨windowRoom, -, sent⟩ := bind_ok.mp sent
  obtain ⟨cwndRoom, -, sent⟩ := bind_ok.mp sent
  obtain ⟨popped, -, sent⟩ := bind_ok.mp sent
  cases popped with
  | none => cases sent
  | some popped =>
    obtain ⟨header, built, sent⟩ := bind_ok.mp sent
    obtain ⟨-, -, sent⟩ := bind_ok.mp sent
    obtain ⟨emitted, emits, sent⟩ := bind_ok.mp sent
    have options := tcpHeader_options built
    have kept : emitted.Plain := emit_plain emits options plain
    cases sent
    exact kept

/-- A round of the coroutine emits no options. -/
theorem round_plain {reply : ArpReply} (done : task.round profile env reply cb = .ok (task', cb'))
    (plain : cb.Plain) : cb'.Plain := by
  cases task with
  | top =>
    rw [SenderTask.round] at done
    unfold fromTop at done
    dsimp only at done
    split at done
    · cases done
      exact plain
    split at done
    · cases reply with
      | pending | failed =>
        cases done
        exact plain
      | resolved remoteLinkAddr => exact sendProbe_plain done plain
    obtain ⟨_, -, done⟩ := bind_ok.mp done
    split at done
    · cases done
    obtain ⟨_, -, done⟩ := bind_ok.mp done
    split at done
    · cases done
      exact plain
    cases reply with
    | pending | failed =>
      cases done
      exact plain
    | resolved remoteLinkAddr =>
      have kept := sendSegment_plain done
      exact kept plain
  | idle | blocked =>
    rw [SenderTask.round] at done
    split at done
    · cases done
      exact plain
    · cases done
      exact plain
  | queryProbe sendNext =>
    cases reply with
    | pending | failed =>
      cases done
      exact plain
    | resolved remoteLinkAddr => exact sendProbe_plain done plain
  | persist =>
    rw [SenderTask.round] at done
    split at done
    · cases done
      exact plain
    split at done
    · cases done
      exact plain
    obtain ⟨header, built, done⟩ := bind_ok.mp done
    obtain ⟨emitted, emits, done⟩ := bind_ok.mp done
    have options := tcpHeader_options built
    have kept : emitted.Plain := emit_plain emits options plain
    cases done
    exact kept
  | querySend =>
    cases reply with
    | pending | failed =>
      cases done
      exact plain
    | resolved remoteLinkAddr => exact sendSegment_plain done plain
  | returned =>
    cases done
    exact plain

end SenderTask

namespace Connection

variable [CongestionControl κ] [RtoCalculator ρ] {profile : Profile}

omit [CongestionControl κ] [RtoCalculator ρ] in
/-- Acknowledgements without a body do not count. -/
theorem plain_of_acks {cb cb' : ControlBlock κ ρ}
    (sent : ∃ acks, PureAcks acks ∧ cb'.transmitted = cb.transmitted ++ acks) (plain : cb.Plain) :
    cb'.Plain := by
  obtain ⟨acks, pure, sent⟩ := sent
  intro segment member body
  rw [sent] at member
  obtain member | member := List.mem_append.mp member
  · exact plain segment member body
  · exact absurd (pure segment member).1 body

/-- No step emits a segment with both a body and options. -/
theorem step_plain {source target : Connection κ ρ} {action : Action}
    (advanced : source.step profile action = .ok target) (plain : source.cb.Plain) :
    target.cb.Plain := by
  cases action with
  | receive env header data =>
    obtain ⟨cb, received, advanced⟩ := bind_ok.mp advanced
    cases advanced
    exact plain_of_acks (ControlBlock.receive_acks received).1 plain
  | pollRecv waker =>
    cases advanced
    have same : (source.cb.pollRecv waker).1.transmitted = source.cb.transmitted := by
      simp only [ControlBlock.pollRecv]
      split <;> rfl
    unfold ControlBlock.Plain
    rw [same]
    exact plain
  | send env buf =>
    obtain ⟨⟨cb, result⟩, sent, advanced⟩ := bind_ok.mp advanced
    cases advanced
    exact ControlBlock.send_plain sent plain
  | close env =>
    obtain ⟨cb, closed, advanced⟩ := bind_ok.mp advanced
    cases advanced
    exact ControlBlock.close_plain closed plain
  | senderRound env reply =>
    obtain ⟨⟨task, cb⟩, round, advanced⟩ := bind_ok.mp advanced
    cases advanced
    exact SenderTask.round_plain round plain
  | retransmitterRound env =>
    obtain ⟨cb, done, advanced⟩ := bind_ok.mp advanced
    cases advanced
    obtain ⟨-, rfl⟩ | ⟨-, done⟩ := backgroundRound_cases done
    · exact plain
    · exact ControlBlock.retransmitterRound_plain done plain
  | acknowledgerRound env =>
    obtain ⟨cb, done, advanced⟩ := bind_ok.mp advanced
    cases advanced
    obtain ⟨-, rfl⟩ | ⟨-, done⟩ := backgroundRound_cases done
    · exact plain
    obtain rfl | sent := ControlBlock.acknowledgerRound_cases done
    · exact plain
    · exact plain_of_acks (ControlBlock.sendAck_onlyAcks sent).acks plain

end Connection

/-! ## The maximum segment size -/

/-- What an acknowledgement leaves in the queue is no longer than what was there. -/
theorem Sender.removeAcknowledged_within [RtoCalculator ρ] {profile : Profile} {now : Instant}
    {queue queue' : List UnackedSegment} {count limit : Nat} {rto rto' : ρ}
    (removed : removeAcknowledged profile now queue count rto = .ok (queue', rto'))
    (within : ∀ segment ∈ queue, segment.bytes.length ≤ limit) :
    ∀ segment ∈ queue', segment.bytes.length ≤ limit := by
  induction queue generalizing count rto with
  | nil =>
    rw [removeAcknowledged] at removed
    split at removed
    · cases removed
      exact within
    split at removed <;> cases removed
  | cons segment rest inductionHypothesis =>
    have behind : ∀ other ∈ rest, other.bytes.length ≤ limit := fun other member =>
      within other (List.mem_cons_of_mem _ member)
    rw [removeAcknowledged] at removed
    split at removed
    · cases removed
      exact within
    dsimp only at removed
    split at removed
    · -- The acknowledgement ends inside this segment, of which an end is left.
      obtain ⟨bytes, adjusts, removed⟩ := bind_ok.mp removed
      obtain ⟨-, rfl⟩ := Buffer.adjust_ok adjusts
      cases removed
      intro other member
      obtain rfl | member := List.mem_cons.mp member
      · rw [List.length_drop]
        exact Nat.le_trans (Nat.sub_le _ _) (within segment List.mem_cons_self)
      · exact behind other member
    split at removed
    · obtain ⟨-, -, removed⟩ := bind_ok.mp removed
      cases removed
      exact behind
    · exact inductionHypothesis removed behind

namespace ControlBlock

/-- The ACK section keeps the limit and what is within it. -/
theorem SenderAfterAck.within [RtoCalculator ρ] {profile : Profile} {now : Instant}
    {cb : ControlBlock κ ρ} {header : TcpHeader} {sender : Sender} {limit : Nat}
    (after : cb.SenderAfterAck profile now header sender)
    (within : ∀ segment ∈ cb.sender.unackedQueue, segment.bytes.length ≤ limit) :
    sender.mss = cb.sender.mss ∧ ∀ segment ∈ sender.unackedQueue, segment.bytes.length ≤ limit := by
  unfold SenderAfterAck at after
  split at after
  · obtain ⟨rto, removed, -, -, -, -, mss, -⟩ := after.sender
    exact ⟨mss, Sender.removeAcknowledged_within removed within⟩
  · subst after
    exact ⟨rfl, within⟩

variable [CongestionControl κ] [RtoCalculator ρ] {profile : Profile} {env : Env}
  {cb cb' : ControlBlock κ ρ}

/-- The buffer is accepted and takes the fast path. -/
def SentAtOnce (env : Env) (cb : ControlBlock κ ρ) (buf : Buffer) : Prop :=
  cb.userIsDoneSending = false ∧ buf.length < 2 ^ 32 ∧ cb.FastPath env buf

instance (env : Env) (cb : ControlBlock κ ρ) (buf : Buffer) : Decidable (cb.SentAtOnce env buf) :=
  inferInstanceAs (Decidable (_ ∧ _ ∧ _))

/-- What is accepted is shorter than 4 GiB. -/
theorem send_small {buf : Buffer} (sent : cb.send profile env buf = .ok (cb', .ok ())) :
    buf.length < 2 ^ 32 := by
  unfold send at sent
  split at sent
  · cases sent
  split at sent
  · cases sent
  · rename_i small
    exact Decidable.not_not.mp small

/-- A buffer that takes the fast path is transmitted as it is. -/
theorem send_atOnce {buf : Buffer} {result : Except Fail Unit} (atOnce : cb.SentAtOnce env buf)
    (sent : cb.send profile env buf = .ok (cb', result)) :
    ∃ segment ∈ cb'.transmitted, segment.data = some buf := by
  obtain ⟨active, small, empty, known, room⟩ := atOnce
  unfold send at sent
  rw [active, if_neg Bool.false_ne_true, if_neg (not_not.mpr small), if_neg (not_not.mpr empty)] at sent
  obtain ⟨inFlight, added, sent⟩ := bind_ok.mp sent
  obtain ⟨effectiveCwnd, added', sent⟩ := bind_ok.mp sent
  cases addU32_ok added
  cases addU32_ok added'
  dsimp only at sent
  rw [if_pos room] at sent
  cases address : env.linkAddr with
  | none =>
    rw [address] at known
    cases known
  | some remoteLinkAddr =>
    rw [address] at sent
    obtain ⟨emitted, immediate, sent⟩ := bind_ok.mp sent
    cases sent
    obtain ⟨segment, carries, seen⟩ := sendImmediate_ok immediate
    have transmitted : cb'.transmitted = _ := congrArg View.transmitted seen
    refine ⟨segment, ?_, carries.body⟩
    rw [transmitted]
    exact List.mem_append_right _ (List.mem_singleton.mpr rfl)

end ControlBlock

namespace View

/-- Everything that has been transmitted and everything that waits for its acknowledgement is
within the maximum segment size. -/
structure Within (limit : Nat) (view : View) : Prop where
  mss : view.sender.mss = limit
  emitted : ∀ segment ∈ view.transmitted, segment.bodySize ≤ limit
  unacked : ∀ segment ∈ view.sender.unackedQueue, segment.bytes.length ≤ limit

variable {limit : Nat} {view : View} {segment : TcpSegment} {seqNum : SeqNumber} {bytes : Buffer}
  {fin : Bool}

/-- Emitting a segment within the limit. -/
theorem Within.emit (within : view.Within limit) (carries : Carries segment seqNum bytes fin)
    (small : bytes.length ≤ limit) : (view.emitted segment).Within limit := by
  refine ⟨within.mss, ?_, within.unacked⟩
  intro other member
  obtain member | member := List.mem_append.mp member
  · exact within.emitted other member
  · obtain rfl := List.mem_singleton.mp member
    rw [TcpSegment.bodySize_of_carries carries]
    exact small

/-- A buffer within the limit that leaves. -/
theorem Within.leave (within : view.Within limit) (carries : Carries segment seqNum bytes fin)
    (small : bytes.length ≤ limit) (now : Instant) {sender : Sender}
    (mss : sender.mss = view.sender.mss)
    (queue : sender.unackedQueue = view.sender.unackedQueue ++ [{ bytes, initialTx := some now }])
    (userIsDoneSending : Bool) :
    { view.emitted segment with sender, userIsDoneSending }.Within limit := by
  refine ⟨mss.trans within.mss, (within.emit carries small).emitted, ?_⟩
  intro other member
  dsimp only at member
  rw [queue] at member
  obtain member | member := List.mem_append.mp member
  · exact within.unacked other member
  · obtain rfl := List.mem_singleton.mp member
    exact small

/-- Pure acknowledgements have no body. -/
theorem Within.acknowledge (within : view.Within limit) {acks : List TcpSegment}
    (pure : PureAcks acks) : { view with transmitted := view.transmitted ++ acks }.Within limit := by
  refine ⟨within.mss, ?_, within.unacked⟩
  intro segment member
  obtain member | member := List.mem_append.mp member
  · exact within.emitted segment member
  · rw [TcpSegment.bodySize, (pure segment member).1]
    exact Nat.zero_le _

end View

namespace Connection

/-- The connection keeps to the limit, and so does a probe that it repeats. -/
structure Within (limit : Nat) (c : Connection κ ρ) : Prop where
  view : c.cb.view.Within limit
  probe : ∀ sendNext buf remoteLinkAddr changes timeout deadline,
    c.task = .persist sendNext buf remoteLinkAddr changes timeout deadline → buf.length ≤ limit

variable [CongestionControl κ] [RtoCalculator ρ] {profile : Profile}

/-- A buffer that takes the fast path is no longer than the maximum segment size. -/
def Segmented (c : Connection κ ρ) : Action → Prop
  | .send env buf => c.cb.SentAtOnce env buf → buf.length ≤ c.cb.sender.mss
  | _ => True

instance (c : Connection κ ρ) (action : Action) : Decidable (c.Segmented action) :=
  match action with
  | .send _ _ => inferInstanceAs (Decidable (_ → _))
  | .senderRound _ _ | .receive _ _ _ | .pollRecv _ | .close _ | .retransmitterRound _
  | .acknowledgerRound _ => inferInstanceAs (Decidable True)

omit [CongestionControl κ] [RtoCalculator ρ] in
/-- A retransmission repeats what waits for its acknowledgement. -/
theorem retransmit_within {limit : Nat} {env : Env} {cb cb' : ControlBlock κ ρ}
    (within : cb.view.Within limit) (done : cb.retransmit profile env = .ok cb') :
    cb'.view.Within limit := by
  obtain rfl | ⟨segment, rest, queue, seen⟩ := ControlBlock.retransmit_cases done
  · exact within
  have small : segment.bytes.length ≤ limit :=
    within.unacked segment (queue ▸ List.mem_cons_self : segment ∈ cb.sender.unackedQueue)
  have marked : ∀ other ∈ (ControlBlock.retransmitted cb.sender segment rest).unackedQueue,
      other.bytes.length ≤ limit := by
    intro other member
    obtain rfl | member := List.mem_cons.mp member
    · exact small
    · exact within.unacked other (queue ▸ List.mem_cons_of_mem _ member : other ∈ cb.sender.unackedQueue)
  obtain seen | ⟨out, carries, seen⟩ := seen
  · rw [seen]
    exact ⟨within.mss, within.emitted, marked⟩
  · rw [seen]
    exact ⟨within.mss, (within.emit carries small).emitted, marked⟩

/-- A round of the coroutine cuts what it sends to the limit. -/
theorem round_within {limit : Nat} (positive : 0 < limit) {env : Env} {reply : ArpReply}
    {task task' : SenderTask} {cb cb' : ControlBlock κ ρ} (within : (⟨cb, task⟩ : Connection κ ρ).Within limit)
    (done : task.round profile env reply cb = .ok (task', cb')) :
    (⟨cb', task'⟩ : Connection κ ρ).Within limit := by
  obtain ⟨seen, kept⟩ | ⟨_, _, before, -, sent, like, -⟩ | ⟨_, _, _, _, _, before, sent, like, -⟩ |
    ⟨_, buf, _, _, _, _, _, _, segment, persists, persists', carries, seen⟩ := SenderTask.round_cases done
  · refine ⟨?_, ?_⟩
    · dsimp only
      rw [seen]
      exact within.view
    · intro _ _ _ _ _ _ waits
      dsimp only at waits
      obtain rfl | nothing | captured := kept
      · exact within.probe _ _ _ _ _ _ waits
      · rw [waits] at nothing
        cases nothing
      · rw [waits] at captured
        cases captured
  · obtain ⟨byte, _, _, segment, _, queue, waits, carries, seen⟩ := SenderTask.sendProbe_ok sent
    have small : [byte].length ≤ limit := positive
    refine ⟨?_, ?_⟩
    · dsimp only
      rw [seen, like]
      have same : before.sender = cb.sender := congrArg View.sender like
      rw [same]
      exact within.view.leave carries small env.now (by rfl) (by rfl) _
    · intro _ _ _ _ _ _ waits'
      dsimp only at waits'
      rw [waits] at waits'
      cases waits'
      exact small
  · obtain ⟨windowRoom, cwndRoom, front, _, segment, -, -, queue, waits, carries, seen⟩ :=
      SenderTask.sendSegment_ok sent
    have same : before.sender = cb.sender := congrArg View.sender like
    have mss : cb.sender.mss = limit := within.view.mss
    refine ⟨?_, ?_⟩
    · dsimp only
      rw [seen, like, same]
      rw [same] at carries
      refine within.view.leave carries ?_ env.now (by rfl) (by rfl) _
      rw [List.length_take, mss]
      omega
    · intro _ _ _ _ _ _ waits'
      dsimp only at waits'
      rw [waits] at waits'
      cases waits'
  · have small : buf.length ≤ limit := within.probe _ _ _ _ _ _ persists
    refine ⟨?_, ?_⟩
    · dsimp only
      rw [seen]
      exact within.view.emit carries small
    · intro _ _ _ _ _ _ waits'
      dsimp only at waits'
      rw [persists'] at waits'
      cases waits'
      exact small

/-- One step of a connection whose fast path keeps to the limit. -/
theorem step_within {limit : Nat} (positive : 0 < limit) {source target : Connection κ ρ}
    {action : Action} (segmented : source.Segmented action) (within : source.Within limit)
    (advanced : source.step profile action = .ok target) : target.Within limit := by
  cases action with
  | receive env header data =>
    obtain ⟨cb, received, advanced⟩ := bind_ok.mp advanced
    cases advanced
    obtain ⟨⟨acks, pure, sent⟩, -, sender⟩ := ControlBlock.receive_acks received
    have kept : cb.sender.mss = source.cb.sender.mss ∧
        ∀ segment ∈ cb.sender.unackedQueue, segment.bytes.length ≤ limit := by
      obtain ⟨-, after⟩ | ⟨-, same⟩ := sender
      · exact after.within within.view.unacked
      · rw [same]
        exact ⟨rfl, within.view.unacked⟩
    refine ⟨⟨kept.1.trans within.view.mss, ?_, kept.2⟩, within.probe⟩
    have emitted := (within.view.acknowledge pure).emitted
    change ∀ segment ∈ cb.transmitted, _
    rw [sent]
    exact emitted
  | pollRecv waker =>
    cases advanced
    have like : (source.cb.pollRecv waker).1.sender = source.cb.sender ∧
        (source.cb.pollRecv waker).1.transmitted = source.cb.transmitted := by
      simp only [ControlBlock.pollRecv]
      split <;> exact ⟨rfl, rfl⟩
    refine ⟨⟨?_, ?_, ?_⟩, within.probe⟩
    · change (source.cb.pollRecv waker).1.sender.mss = limit
      rw [like.1]
      exact within.view.mss
    · change ∀ segment ∈ (source.cb.pollRecv waker).1.transmitted, _
      rw [like.2]
      exact within.view.emitted
    · change ∀ segment ∈ (source.cb.pollRecv waker).1.sender.unackedQueue, _
      rw [like.1]
      exact within.view.unacked
  | send env buf =>
    obtain ⟨⟨cb, result⟩, sent, advanced⟩ := bind_ok.mp advanced
    cases advanced
    refine ⟨?_, within.probe⟩
    dsimp only
    obtain ⟨-, -, seen⟩ | ⟨-, -, -, seen⟩ | ⟨active, path, rfl, segment, carries, seen⟩ :=
      ControlBlock.send_cases sent
    · rw [seen]
      exact within.view
    · rw [seen]
      exact ⟨within.view.mss, within.view.emitted, within.view.unacked⟩
    · have small : buf.length ≤ limit := by
        rw [← within.view.mss]
        exact segmented ⟨active, ControlBlock.send_small sent, path⟩
      rw [seen]
      exact within.view.leave carries small env.now (by rfl) (by rfl) _
  | close env =>
    obtain ⟨cb, closed, advanced⟩ := bind_ok.mp advanced
    cases advanced
    refine ⟨?_, within.probe⟩
    dsimp only
    obtain ⟨-, rfl⟩ | ⟨-, -, seen⟩ | ⟨-, -, segment, carries, seen⟩ := ControlBlock.close_cases closed
    · exact within.view
    · rw [seen]
      exact ⟨within.view.mss, within.view.emitted, within.view.unacked⟩
    · rw [seen]
      exact within.view.leave carries (Nat.zero_le _) env.now (by rfl) (by rfl) _
  | senderRound env reply =>
    obtain ⟨⟨task, cb⟩, round, advanced⟩ := bind_ok.mp advanced
    cases advanced
    exact round_within positive within round
  | retransmitterRound env =>
    obtain ⟨cb, done, advanced⟩ := bind_ok.mp advanced
    cases advanced
    obtain ⟨-, rfl⟩ | ⟨-, done⟩ := backgroundRound_cases done
    · exact within
    refine ⟨?_, within.probe⟩
    dsimp only
    obtain seen | ⟨before, after, sent, like, like'⟩ := ControlBlock.retransmitterRound_cases done
    · rw [seen]
      exact within.view
    · rw [← like']
      exact retransmit_within (like.symm ▸ within.view) sent
  | acknowledgerRound env =>
    obtain ⟨cb, done, advanced⟩ := bind_ok.mp advanced
    cases advanced
    obtain ⟨-, rfl⟩ | ⟨-, done⟩ := backgroundRound_cases done
    · exact within
    obtain rfl | sent := ControlBlock.acknowledgerRound_cases done
    · exact within
    obtain ⟨-, acks, pure, seen⟩ := ControlBlock.sendAck_ok sent
    refine ⟨?_, within.probe⟩
    dsimp only
    rw [seen]
    exact within.view.acknowledge pure

/-- The maximum segment size stays. -/
theorem step_mss {source target : Connection κ ρ} {action : Action}
    (advanced : source.step profile action = .ok target) :
    target.cb.sender.mss = source.cb.sender.mss := by
  cases action with
  | receive env header data =>
    obtain ⟨cb, received, advanced⟩ := bind_ok.mp advanced
    cases advanced
    obtain ⟨-, -, ⟨-, after⟩ | ⟨-, same⟩⟩ := ControlBlock.receive_acks received
    · unfold ControlBlock.SenderAfterAck at after
      split at after
      · obtain ⟨-, -, -, -, -, -, mss, -⟩ := after.sender
        exact mss
      · exact congrArg Sender.mss after
    · exact congrArg Sender.mss same
  | pollRecv waker =>
    cases advanced
    simp only [ControlBlock.pollRecv]
    split <;> rfl
  | send | close | senderRound | retransmitterRound | acknowledgerRound =>
    have sends := step_sends rfl advanced
    have kept {view view' : View} (sends : view.Sends view') : view'.sender.mss = view.sender.mss := by
      cases sends with
      | quiet | acknowledges | queues | immediate | probes | departs | repeats | marks |
          retransmits => rfl
    exact kept sends

/-- The maximum segment size of a run. -/
theorem run_mss {args : NewConnection} {past : List (Transition κ ρ)} {state : Connection κ ρ}
    (run : Run profile (Connection.new args) past state) : state.cb.sender.mss = args.senderMss := by
  refine Runs.state_invariant (fun state : Connection κ ρ => state.cb.sender.mss = args.senderMss)
    rfl ?_ run (Runs.meets_true past)
  intro source action target _ mss advanced
  exact (step_mss advanced).trans mss

/-- Segment size. Let the peer's maximum segment size be positive and leave room for both headers
in an IPv4 datagram. In every run, every data segment that is transmitted is within it, and its
total length fits its field, exactly if every buffer that `send` transmits at once is within it.

Proof: what leaves at once is what `send` was given, so that a buffer beyond the size
shows up as a segment; this is the induction on the run. In the other direction the
invariant `Within` bounds what the sender holds ready, since every other place cuts its
segments to the size. -/
theorem segments_within_mss (profile : Profile) (args : NewConnection) (positive : 0 < args.senderMss)
    (room : args.senderMss ≤ 65495) {past : List (Transition κ ρ)} {state : Connection κ ρ}
    (run : Run profile (Connection.new args) past state) :
    (∀ segment ∈ state.cb.transmitted, segment.data ≠ none →
      segment.bodySize ≤ args.senderMss ∧ segment.LengthFits profile) ↔
    Runs.Meets Segmented past := by
  constructor
  · intro within
    induction run with
    | nil => exact Runs.meets_nil _
    | @step past source target action earlier advanced inductionHypothesis =>
      obtain ⟨later, transmitted⟩ := step_transmitted advanced
      refine (Runs.meets_cons _ _ _).mpr ⟨?_, inductionHypothesis fun segment member =>
        within segment (transmitted ▸ List.mem_append_left later member)⟩
      cases action with
      | receive | pollRecv | close | senderRound | retransmitterRound | acknowledgerRound => trivial
      | send env buf =>
        intro atOnce
        obtain ⟨⟨cb, result⟩, sent, advanced⟩ := bind_ok.mp advanced
        cases advanced
        obtain ⟨segment, member, body⟩ := ControlBlock.send_atOnce atOnce sent
        have small := (within segment member (by rw [body]; exact Option.some_ne_none buf)).1
        rw [TcpSegment.bodySize, body] at small
        rw [run_mss earlier]
        exact small
  · intro segmented segment member body
    have within : state.Within args.senderMss := by
      refine Runs.state_invariant (fun state : Connection κ ρ => state.Within args.senderMss) ?_ ?_
        run segmented
      · refine ⟨⟨rfl, ?_, ?_⟩, ?_⟩
        · intro segment none
          cases none
        · intro segment none
          cases none
        · intro _ _ _ _ _ _ waits
          cases waits
      · intro source action target segmented within advanced
        exact step_within positive segmented within advanced
    have plain : state.cb.Plain := by
      refine Runs.state_invariant (fun state : Connection κ ρ => state.cb.Plain) ?_ ?_
        run (Runs.meets_true past)
      · intro segment none
        cases none
      · intro source action target _ plain advanced
        exact step_plain advanced plain
    have small : segment.bodySize ≤ args.senderMss := within.view.emitted segment member
    exact ⟨small, TcpSegment.lengthFits_of_size (plain segment member body) (Nat.le_trans small room)⟩

/-- The peer takes three bytes at a time. A buffer of two leaves at once, five more wait for the
link address and leave in two segments. -/
theorem segments_within_mss_cut :
    ∃ past state, Run .dev (Connection.sample 1000 20 3) past state ∧
      state.cb.transmitted.map TcpSegment.data = [some [1, 2], some [3, 4, 5], some [6, 7]] ∧
      ∀ segment ∈ state.cb.transmitted, segment.data ≠ none →
        segment.bodySize ≤ 3 ∧ segment.LengthFits .dev := by
  have executed : ∃ past state, execute .dev (Connection.sample 1000 20 3)
      [.send (Env.sample 0) [1, 2], .send ⟨0, none⟩ [3, 4, 5, 6, 7],
        .senderRound (Env.sample 1) (.resolved 2#48),
        .senderRound (Env.sample 1) (.resolved 2#48)] = .ok (past, state) ∧
      Runs.Meets Segmented past ∧
      state.cb.transmitted.map TcpSegment.data = [some [1, 2], some [3, 4, 5], some [6, 7]] := by
    refine ⟨_, _, rfl, by decide, by decide⟩
  obtain ⟨past, state, executed, segmented, sizes⟩ := executed
  have run := run_of_execute executed
  have within := segments_within_mss .dev (NewConnection.sample 1000 20 3) (by decide) (by decide) run
  exact ⟨past, state, run, sizes, within.mpr segmented⟩

/-- The same five bytes leave in one segment if the link address is known when they are sent. -/
theorem segment_exceeds_mss :
    ∃ past state, Run .dev (Connection.sample 1000 20 3) past state ∧
      ∃ segment ∈ state.cb.transmitted, segment.data ≠ none ∧ ¬ segment.bodySize ≤ 3 := by
  refine ⟨_, _, @run_of_execute _ _ _ _ .dev _ _ [.send (Env.sample 0) [3, 4, 5, 6, 7]] _ rfl, ?_⟩
  decide

end Connection

end Capybara
