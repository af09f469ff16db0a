import Capybara.Lib.EndMarkers
import Capybara.Tcp.Established.Reception
import Capybara.Tcp.Established.Transmission

/-!
# What an arriving segment does to the sender

`receive_acks` is the inversion of `receive` for the sending side. It holds in
every state, whatever the receiving side looks like: the sender changes in the ACK
section only, and nothing but pure acknowledgements is sent.

The ACK section compares the acknowledgement number with `send_unacked` and
`send_next` by the sign of wrapped differences. Below half the sequence space of
outstanding numbers this is exact, except for one number: with nothing
outstanding, the number half the space ahead precedes `send_next` as well.
-/

namespace Capybara

open EndMarkers

variable {κ ρ : Type}

namespace Sender

/-- The numbers sent and not yet acknowledged. -/
def outstanding (sender : Sender) : Nat := sender.sendUnacked.value.ahead sender.sendNext.value

/-- Nothing is outstanding, and the acknowledgement lies half the sequence space
ahead. -/
def HalfSpaceAck (sender : Sender) (header : TcpHeader) : Prop :=
  sender.outstanding = 0 ∧ sender.sendUnacked.value.ahead header.ackNum = 2 ^ 31

instance (sender : Sender) (header : TcpHeader) : Decidable (sender.HalfSpaceAck header) :=
  inferInstanceAs (Decidable (_ ∧ _))

/-- However much is outstanding, a number taken as new has been sent, apart from the
one half the space ahead. -/
theorem acksNew_within {sender : Sender} {header : TcpHeader}
    (new : sender.acksNew header = true) :
    sender.sendUnacked.value.ahead header.ackNum ≤ sender.outstanding ∨
      sender.HalfSpaceAck header := by
  unfold HalfSpaceAck outstanding
  rw [acksNew, Bool.and_eq_true, SeqNumber.lt_iff, SeqNumber.le_iff] at new
  rcases Nat.lt_or_ge (sender.sendUnacked.value.ahead sender.sendNext.value)
      (sender.sendUnacked.value.ahead header.ackNum) with beyond | within
  · have around := SeqNumber.ahead_around sender.sendUnacked.value beyond
    omega
  · exact .inl within

/-- The two comparisons in forward steps. -/
theorem acksNew_iff (sender : Sender) (header : TcpHeader) (small : sender.outstanding < 2 ^ 31) :
    sender.acksNew header = true ↔
      (1 ≤ sender.sendUnacked.value.ahead header.ackNum ∧
        sender.sendUnacked.value.ahead header.ackNum ≤ sender.outstanding) ∨
      sender.HalfSpaceAck header := by
  unfold HalfSpaceAck
  unfold outstanding at small ⊢
  rw [acksNew, Bool.and_eq_true, SeqNumber.lt_iff, SeqNumber.le_iff]
  rcases Nat.lt_or_ge (sender.sendUnacked.value.ahead sender.sendNext.value)
      (sender.sendUnacked.value.ahead header.ackNum) with beyond | within
  · have around := SeqNumber.ahead_around sender.sendUnacked.value beyond
    omega
  · have between := SeqNumber.ahead_between sender.sendUnacked.value within
    omega

/-- The comparisons are exact unless half the space is acknowledged at once. -/
theorem acksNew_exact_iff (sender : Sender) (header : TcpHeader)
    (small : sender.outstanding < 2 ^ 31) :
    (sender.acksNew header = true ↔ 1 ≤ sender.sendUnacked.value.ahead header.ackNum ∧
      sender.sendUnacked.value.ahead header.ackNum ≤ sender.outstanding) ↔
    ¬ sender.HalfSpaceAck header := by
  rw [acksNew_iff sender header small]
  unfold HalfSpaceAck
  omega

/-- An update of the send window changes nothing else. -/
theorem updateSendWindow_ok {profile : Profile} {sender sender' : Sender} {header : TcpHeader}
    (updated : sender.updateSendWindow profile header = .ok sender') :
    ∃ sendWindow lastUpdateSeq lastUpdateAck, sender' = { sender with
      sendWindow
      sendWindowLastUpdateSeq := lastUpdateSeq
      sendWindowLastUpdateAck := lastUpdateAck } := by
  unfold updateSendWindow at updated
  split at updated
  · obtain ⟨window, -, updated⟩ := bind_ok.mp updated
    cases updated
    exact ⟨_, _, _, rfl⟩
  · cases updated
    exact ⟨_, _, _, rfl⟩

/-- What a removal leaves of a queue in order: the bytes behind the acknowledged ones. -/
theorem removeAcknowledged_left [RtoCalculator ρ] {profile : Profile} {now : Instant}
    {queue queue' : List UnackedSegment} {count : Nat} {rto rto' : ρ}
    (ordered : MarkerLast (queue.map UnackedSegment.bytes))
    (removed : removeAcknowledged profile now queue count rto = .ok (queue', rto')) :
    (queue'.map UnackedSegment.bytes).flatten =
      (queue.map UnackedSegment.bytes).flatten.drop count := by
  induction queue generalizing count rto with
  | nil =>
    rw [removeAcknowledged] at removed
    split at removed
    · cases removed
      simp
    · split at removed <;> cases removed
  | cons segment queue inductionHypothesis =>
    obtain ⟨own, further⟩ := ordered
    rw [removeAcknowledged] at removed
    split at removed
    · rename_i none
      cases removed
      rw [none, List.drop_zero]
    dsimp only at removed
    rw [List.map_cons, List.flatten_cons]
    split at removed
    · -- the acknowledgement ends inside this segment
      rename_i part
      obtain ⟨bytes, adjusts, removed⟩ := bind_ok.mp removed
      obtain ⟨-, rfl⟩ := Buffer.adjust_ok adjusts
      cases removed
      rw [List.map_cons, List.flatten_cons, List.drop_append_of_le_length (Nat.le_of_lt part)]
    rename_i whole
    split at removed
    · -- the end marker, behind which nothing follows
      rename_i empty
      have marker : segment.bytes = [] := List.eq_nil_of_length_eq_zero empty
      obtain ⟨-, -, removed⟩ := bind_ok.mp removed
      cases removed
      rw [own marker, marker, List.flatten_nil, List.nil_append, List.drop_nil]
    · rw [inductionHypothesis further removed, List.drop_append,
        List.drop_eq_nil_of_le (Nat.le_of_not_lt whole), List.nil_append]

end Sender

namespace ControlBlock

/-- Only the receiving side and the state differ, and pure acknowledgements have
been sent. -/
structure OnlyAcks (cb cb' : ControlBlock κ ρ) : Prop where
  sender : cb'.sender = cb.sender
  done : cb'.userIsDoneSending = cb.userIsDoneSending
  acks : ∃ acks, PureAcks acks ∧ cb'.transmitted = cb.transmitted ++ acks

variable {profile : Profile} {env : Env} {cb cb' : ControlBlock κ ρ} {header : TcpHeader}
  {data : Buffer} {segment : Accepted}

/-- What changes neither the sender nor what was sent only acknowledges. -/
theorem OnlyAcks.of_quiet (sender : cb'.sender = cb.sender)
    (done : cb'.userIsDoneSending = cb.userIsDoneSending)
    (transmitted : cb'.transmitted = cb.transmitted) : cb.OnlyAcks cb' :=
  ⟨sender, done, [], by simp [PureAcks], by rw [transmitted, List.append_nil]⟩

/-- An acknowledgement carries nothing else. -/
theorem sendAck_onlyAcks (sent : cb.sendAck profile env = .ok cb') : cb.OnlyAcks cb' := by
  obtain ⟨-, acks, pure, seen⟩ := sendAck_ok sent
  exact ⟨congrArg View.sender seen, congrArg View.userIsDoneSending seen, acks, pure,
    congrArg View.transmitted seen⟩

/-- Storing a segment for later does not touch the sender. -/
theorem storeOutOfOrderSegment_frame {newStart newEnd : SeqNumber}
    (stored : cb.storeOutOfOrderSegment profile newStart newEnd data = .ok cb') :
    ∃ store, cb' = { cb with outOfOrder := store } := by
  obtain ⟨⟨store, inserted⟩, -, stored⟩ := bind_ok.mp stored
  cases stored
  exact ⟨_, rfl⟩

/-- Out of order, text and FIN are remembered and an acknowledgement is sent. -/
theorem receiveOutOfOrder_frame (received : cb.receiveOutOfOrder profile env segment = .ok cb') :
    cb' = cb ∨ ∃ store fin,
      { cb with outOfOrder := store, outOfOrderFin := fin }.sendAck profile env = .ok cb' := by
  unfold receiveOutOfOrder at received
  split at received
  · obtain ⟨⟨marked, segLen, segEnd⟩, marks, received⟩ := bind_ok.mp received
    obtain ⟨-, -, received⟩ := bind_ok.mp received
    obtain ⟨stored, stores, received⟩ := bind_ok.mp received
    have marking : ∃ fin, marked = { cb with outOfOrderFin := fin } := by
      split at marks
      · obtain ⟨_, -, marks⟩ := bind_ok.mp marks
        cases marks
        exact ⟨_, rfl⟩
      · cases marks
        exact ⟨_, rfl⟩
    have storing : ∃ store, stored = { marked with outOfOrder := store } := by
      split at stores
      · exact storeOutOfOrderSegment_frame stores
      · cases stores
        exact ⟨_, rfl⟩
    obtain ⟨fin, rfl⟩ := marking
    obtain ⟨store, rfl⟩ := storing
    exact .inr ⟨store, fin, received⟩
  · cases received
    exact .inl rfl

/-- A segment that is not the next one is acknowledged, and the sender stays. -/
theorem receiveOutOfOrder_onlyAcks (received : cb.receiveOutOfOrder profile env segment = .ok cb') :
    cb.OnlyAcks cb' := by
  obtain rfl | ⟨store, fin, sent⟩ := receiveOutOfOrder_frame received
  · exact .of_quiet rfl rfl rfl
  · obtain ⟨sender, done, acks⟩ := sendAck_onlyAcks sent
    exact ⟨sender, done, acks⟩

/-- The next segment is acknowledged at once or later, and the sender stays. -/
theorem receiveInOrder_onlyAcks (starts : segment.segStart = cb.receiver.receiveNext)
    (received : cb.receiveInOrder profile env segment = .ok cb') : cb.OnlyAcks cb' := by
  by_cases textual : segment.data ≠ [] ∧ cb.state.receivesData = true
  · obtain ⟨joined, front, rest, fin, equation, -, seen⟩ :=
      receiveInOrder_text profile env starts textual.1 textual.2
    rw [equation] at received
    obtain ⟨acks, pure, -, after⟩ := joined_ok seen received
    exact ⟨congrArg View.sender after, congrArg View.userIsDoneSending after, acks, pure,
      congrArg View.transmitted after⟩
  · have none : segment.data = [] ∨ cb.state.receivesData = false := by
      rw [← Bool.not_eq_true]
      exact Decidable.not_and_iff_not_or_not.mp textual |>.imp_left Decidable.not_not.mp
    rw [receiveInOrder_no_text profile env none] at received
    split at received
    · obtain ⟨acks, pure, -, after⟩ := receiveFin_ok received
      exact ⟨congrArg View.sender after, congrArg View.userIsDoneSending after, acks, pure,
        congrArg View.transmitted after⟩
    · cases received
      exact .of_quiet rfl rfl rfl

/-- Cutting a segment in front of the window may take its SYN away and changes nothing else in
its header. -/
theorem trimFront_header {segment' : Accepted} {receiveNext afterReceiveWindow : SeqNumber}
    (fronts : trimFront profile segment receiveNext afterReceiveWindow = .ok (some segment')) :
    segment'.header = { segment.header with syn := segment'.header.syn } := by
  unfold trimFront at fronts
  split at fronts
  · cases fronts
    rfl
  split at fronts
  · split at fronts
    · cases fronts
    · obtain ⟨_, -, fronts⟩ := bind_ok.mp fronts
      obtain ⟨_, -, fronts⟩ := bind_ok.mp fronts
      obtain ⟨_, -, fronts⟩ := bind_ok.mp fronts
      cases fronts
      rfl
  split at fronts
  · cases fronts
  · cases fronts
    rfl

/-- Cutting a segment behind the window may take its FIN away and changes nothing else in its
header. -/
theorem trimEnd_header {segment' : Accepted} {afterReceiveWindow : SeqNumber}
    (ends : trimEnd profile segment afterReceiveWindow = .ok segment') :
    segment'.header = { segment.header with fin := segment'.header.fin } := by
  unfold trimEnd at ends
  split at ends
  · obtain ⟨_, -, ends⟩ := bind_ok.mp ends
    obtain ⟨_, -, ends⟩ := bind_ok.mp ends
    obtain ⟨_, -, ends⟩ := bind_ok.mp ends
    obtain ⟨_, -, ends⟩ := bind_ok.mp ends
    cases ends
    rfl
  · cases ends
    rfl

/-- The acceptability test changes no more of a header than the two flags it cuts
off. -/
theorem trimToWindow_header (trims : cb.trimToWindow profile header data = .ok (some segment)) :
    segment.header = { header with syn := segment.header.syn, fin := segment.header.fin } := by
  obtain ⟨_, -, trims⟩ := bind_ok.mp trims
  obtain ⟨_, -, trims⟩ := bind_ok.mp trims
  obtain ⟨_, -, trims⟩ := bind_ok.mp trims
  obtain ⟨fronted, fronts, trims⟩ := bind_ok.mp trims
  cases fronted with
  | none => cases trims
  | some fronted =>
    obtain ⟨trimmed, ends, trims⟩ := bind_ok.mp trims
    obtain ⟨-, -, trims⟩ := bind_ok.mp trims
    cases trims
    rw [trimEnd_header ends, trimFront_header fronts]

/-- The segment passes the acceptability test and carries an acknowledgement that
no RST or SYN takes precedence over. -/
def ProcessesAck (profile : Profile) (cb : ControlBlock κ ρ) (header : TcpHeader) (data : Buffer) :
    Prop :=
  ∃ segment, cb.trimToWindow profile header data = .ok (some segment) ∧ header.rst = false ∧
    segment.header.syn = false ∧ header.ack = true

variable [CongestionControl κ] [RtoCalculator ρ]

/-- The ways through `receive`: the segment is refused, ends at one of its flags, or
reaches the ACK section and goes on from there. -/
inductive Passes (profile : Profile) (env : Env) (cb : ControlBlock κ ρ) (header : TcpHeader)
    (data : Buffer) : ControlBlock κ ρ → Prop where
  | dropped (refused : cb.trimToWindow profile header data = .ok none) :
      Passes profile env cb header data cb
  | answered {cb' : ControlBlock κ ρ} (refused : cb.trimToWindow profile header data = .ok none)
      (sent : cb.sendAck profile env = .ok cb') : Passes profile env cb header data cb'
  | reset {segment : Accepted} (trims : cb.trimToWindow profile header data = .ok (some segment))
      (rst : header.rst = true) : Passes profile env cb header data cb.receiveRst
  | syn {segment : Accepted} (trims : cb.trimToWindow profile header data = .ok (some segment))
      (syn : segment.header.syn = true) : Passes profile env cb header data { cb with state := .closed }
  | silent {segment : Accepted} (trims : cb.trimToWindow profile header data = .ok (some segment))
      (quiet : header.rst = false) (plain : segment.header.syn = false) (acks : header.ack = false) :
      Passes profile env cb header data cb
  | acknowledged {segment : Accepted} {acked cb' : ControlBlock κ ρ} {proceed : Bool}
      (trims : cb.trimToWindow profile header data = .ok (some segment))
      (quiet : header.rst = false) (plain : segment.header.syn = false) (acks : header.ack = true)
      (processed : cb.processAck profile env header = .ok (acked, proceed))
      (further : acked.sendAck profile env = .ok cb' ∨
        acked.receiveOutOfOrder profile env segment = .ok cb' ∨
        (segment.segStart = acked.receiver.receiveNext ∧
          acked.receiveInOrder profile env segment = .ok cb')) :
      Passes profile env cb header data cb'

/-- The inversion of `receive` along its sections. -/
theorem receive_passes (received : cb.receive profile env header data = .ok cb') :
    Passes profile env cb header data cb' := by
  obtain ⟨trimmed, trims, received⟩ := bind_ok.mp received
  cases trimmed with
  | none =>
    dsimp only at received
    split at received
    · cases received
      exact .dropped trims
    · exact .answered trims received
  | some segment =>
    have flags := trimToWindow_header trims
    have rst : segment.header.rst = header.rst := by rw [flags]
    have ack : segment.header.ack = header.ack := by rw [flags]
    have processes : cb.processAck profile env segment.header = cb.processAck profile env header := by
      rw [flags]
      rfl
    dsimp only at received
    rw [rst, ack, processes] at received
    split at received
    · rename_i reset
      cases received
      exact .reset trims reset
    rename_i quiet
    split at received
    · rename_i syn
      cases received
      exact .syn trims syn
    rename_i plain
    split at received
    · rename_i silent
      cases received
      exact .silent trims (Bool.eq_false_iff.mpr quiet) (Bool.eq_false_iff.mpr plain)
        (by simpa using silent)
    rename_i acks
    obtain ⟨⟨acked, proceed⟩, processed, received⟩ := bind_ok.mp received
    obtain ⟨-, -, seen⟩ := processAck_ok processed
    refine .acknowledged trims (Bool.eq_false_iff.mpr quiet) (Bool.eq_false_iff.mpr plain)
      (by simpa using acks) processed ?_
    dsimp only at received
    split at received
    · exact .inl received
    split at received
    · exact .inr (.inl received)
    · rename_i inOrder
      refine .inr (.inr ⟨?_, received⟩)
      rw [Decidable.not_not.mp inOrder]
      exact congrArg (fun view => view.reception.receiver.receiveNext) seen.symm

/-- The inversion of `receive` for the sending side. -/
theorem receive_acks (received : cb.receive profile env header data = .ok cb') :
    (∃ acks, PureAcks acks ∧ cb'.transmitted = cb.transmitted ++ acks) ∧
    cb'.userIsDoneSending = cb.userIsDoneSending ∧
    ((cb.ProcessesAck profile header data ∧ cb.SenderAfterAck profile env.now header cb'.sender) ∨
      (¬ cb.ProcessesAck profile header data ∧ cb'.sender = cb.sender)) := by
  -- Everything that ends before the ACK section leaves the sender alone.
  have early (only : cb.OnlyAcks cb') (stops : ¬ cb.ProcessesAck profile header data) :
      (∃ acks, PureAcks acks ∧ cb'.transmitted = cb.transmitted ++ acks) ∧
      cb'.userIsDoneSending = cb.userIsDoneSending ∧
      ((cb.ProcessesAck profile header data ∧ cb.SenderAfterAck profile env.now header cb'.sender) ∨
        (¬ cb.ProcessesAck profile header data ∧ cb'.sender = cb.sender)) :=
    ⟨only.acks, only.done, .inr ⟨stops, only.sender⟩⟩
  cases receive_passes received with
  | dropped refused =>
    refine early (.of_quiet rfl rfl rfl) ?_
    rintro ⟨segment, same, -⟩
    cases refused.symm.trans same
  | answered refused sent =>
    refine early (sendAck_onlyAcks sent) ?_
    rintro ⟨segment, same, -⟩
    cases refused.symm.trans same
  | reset trims rst =>
    refine early ?_ ?_
    · unfold receiveRst
      split <;> exact .of_quiet rfl rfl rfl
    · rintro ⟨other, same, quiet, -⟩
      rw [rst] at quiet
      cases quiet
  | syn trims syn =>
    refine early (.of_quiet rfl rfl rfl) ?_
    rintro ⟨other, same, -, plain, -⟩
    cases trims.symm.trans same
    rw [syn] at plain
    cases plain
  | silent trims quiet plain silent =>
    refine early (.of_quiet rfl rfl rfl) ?_
    rintro ⟨other, same, -, -, acks⟩
    rw [acks] at silent
    cases silent
  | @acknowledged segment acked _ proceed trims quiet plain acks processed further =>
    obtain ⟨-, sender, seen⟩ := processAck_ok processed
    have only : acked.OnlyAcks cb' := by
      obtain sent | stored | ⟨starts, inOrder⟩ := further
      · exact sendAck_onlyAcks sent
      · exact receiveOutOfOrder_onlyAcks stored
      · exact receiveInOrder_onlyAcks starts inOrder
    obtain ⟨kept, done, sent⟩ := only
    rw [show acked.transmitted = cb.transmitted from congrArg View.transmitted seen] at sent
    refine ⟨sent, done.trans (congrArg View.userIsDoneSending seen),
      .inl ⟨⟨segment, trims, quiet, plain, acks⟩, ?_⟩⟩
    rw [kept]
    exact sender

omit [CongestionControl κ] in
/-- What the acknowledgement of new data leaves of the sender. -/
theorem Acknowledged.sender {now : Instant} {sender : Sender}
    (acknowledged : cb.Acknowledged profile now header sender) :
    ∃ rto, Sender.removeAcknowledged profile now cb.sender.unackedQueue
        (cb.sender.sendUnacked.value.ahead header.ackNum) cb.rtoCalculator =
          .ok (sender.unackedQueue, rto) ∧
      sender.sendUnacked = cb.sender.sendUnacked.set header.ackNum ∧
      sender.sendNext = cb.sender.sendNext ∧ sender.unsentQueue = cb.sender.unsentQueue ∧
      sender.unsentSeqNo = cb.sender.unsentSeqNo ∧ sender.mss = cb.sender.mss ∧
      sender.windowScale = cb.sender.windowScale := by
  obtain ⟨unackedQueue, rto, removed, updated⟩ := acknowledged
  obtain ⟨_, _, _, rfl⟩ := Sender.updateSendWindow_ok updated
  exact ⟨rto, removed, rfl, rfl, rfl, rfl, rfl, rfl⟩

end ControlBlock

namespace Connection

/-- The numbers acknowledged so far, counted without wrapping. -/
def acked (past : List (Transition κ ρ)) : Nat :=
  Runs.advance (fun c : Connection κ ρ => c.cb.sender.sendUnacked.value.value) past

/-- The numbers sent so far, counted without wrapping. -/
def sent (past : List (Transition κ ρ)) : Nat :=
  Runs.advance (fun c : Connection κ ρ => c.cb.sender.sendNext.value.value) past

/-- Fewer than half the sequence space of numbers is outstanding, and no segment
acknowledges half of it at once. -/
def AckCounted (profile : Profile) (past : List (Transition κ ρ)) (c : Connection κ ρ) :
    Action → Prop
  | .receive _ header data => sent past < acked past + 2 ^ 31 ∧
    (c.cb.ProcessesAck profile header data → ¬ c.cb.sender.HalfSpaceAck header)
  | _ => sent past < acked past + 2 ^ 31

/-- Where acknowledgements are counted, less than half a turn is outstanding. -/
theorem AckCounted.small {profile : Profile} {past : List (Transition κ ρ)} {c : Connection κ ρ}
    {action : Action} (counted : AckCounted profile past c action) :
    sent past < acked past + 2 ^ 31 := by
  cases action with
  | receive env header data => exact counted.1
  | pollRecv | send | close | senderRound | retransmitterRound | acknowledgerRound => exact counted

variable [CongestionControl κ] [RtoCalculator ρ]

/-- One step acknowledges no more than is outstanding. -/
theorem step_acked {profile : Profile} {source target : Connection κ ρ} {action : Action}
    (small : source.cb.sender.outstanding < 2 ^ 31)
    (exact : ∀ env header data, action = .receive env header data →
      source.cb.ProcessesAck profile header data → ¬ source.cb.sender.HalfSpaceAck header)
    (advanced : source.step profile action = .ok target) :
    source.cb.sender.sendUnacked.value.ahead target.cb.sender.sendUnacked.value ≤
      source.cb.sender.outstanding := by
  cases action with
  | receive env header data =>
    obtain ⟨cb, received, advanced⟩ := bind_ok.mp advanced
    cases advanced
    obtain ⟨-, -, ⟨reaches, after⟩ | ⟨-, same⟩⟩ := ControlBlock.receive_acks received
    · unfold ControlBlock.SenderAfterAck at after
      split at after
      · rename_i new
        obtain ⟨-, -, moved, -⟩ := after.sender
        obtain ⟨-, within⟩ | corner := (Sender.acksNew_iff _ header small).mp new
        · rw [moved]
          exact within
        · exact absurd corner (exact env header data rfl reaches)
      · rw [after, SeqNumber.ahead_self]
        exact Nat.zero_le _
    · rw [same, SeqNumber.ahead_self]
      exact Nat.zero_le _
  | pollRecv waker =>
    cases advanced
    have same : (source.cb.pollRecv waker).1.sender = source.cb.sender := by
      simp only [ControlBlock.pollRecv]
      split <;> rfl
    rw [same, SeqNumber.ahead_self]
    exact Nat.zero_le _
  | send | close | senderRound | retransmitterRound | acknowledgerRound =>
    have same : target.cb.sender.sendUnacked = source.cb.sender.sendUnacked :=
      (step_undisturbed rfl advanced).unacked
    rw [same, SeqNumber.ahead_self]
    exact Nat.zero_le _

/-- Both counters move forward: `send_unacked` over outstanding numbers only, and
`send_next` by less than half the sequence space. -/
def Forward (transition : Transition κ ρ) : Prop :=
  transition.source.cb.sender.sendUnacked.value.ahead
      transition.target.cb.sender.sendUnacked.value ≤ transition.source.cb.sender.outstanding ∧
  transition.source.cb.sender.sendNext.value.ahead transition.target.cb.sender.sendNext.value < 2 ^ 31

/-- The two numbers of the sender are the counters, and no more is acknowledged than has been
sent. A step that moves a counter by half a turn would not be seen to move it forward. -/
structure Counted (iss : SeqNumber) (past : List (Transition κ ρ)) (c : Connection κ ρ) : Prop where
  unacked : c.cb.sender.sendUnacked.value = iss.advanced (acked past)
  next : c.cb.sender.sendNext.value = iss.advanced (sent past)
  ordered : acked past ≤ sent past
  forward : sent past < acked past + 2 ^ 31 → ∀ transition ∈ past, Forward transition

namespace Counted

variable {profile : Profile} {iss : SeqNumber} {past : List (Transition κ ρ)}
  {source target : Connection κ ρ} {action : Action}

omit [CongestionControl κ] [RtoCalculator ρ] in
/-- The outstanding numbers are those sent less those acknowledged. -/
theorem outstanding (counted : Counted iss past source) (small : sent past < acked past + 2 ^ 31) :
    source.cb.sender.outstanding = sent past - acked past := by
  have ordered := counted.ordered
  rw [Sender.outstanding, counted.unacked, counted.next,
    show sent past = acked past + (sent past - acked past) by omega,
    ← SeqNumber.advanced_advanced, SeqNumber.ahead_advanced_of_lt _ (by omega)]
  omega

/-- A step without a half-space acknowledgement keeps the counters and their order. -/
theorem step (counted : Counted iss past source) (here : AckCounted profile past source action)
    (advanced : source.step profile action = .ok target) :
    Counted iss (⟨source, action, target⟩ :: past) target := by
  have small := here.small
  have distance := counted.outstanding small
  have moved := step_acked (by omega) (fun env header data arrives => by
    subst arrives
    exact here.2) advanced
  have total : acked (⟨source, action, target⟩ :: past) = acked past +
    source.cb.sender.sendUnacked.value.ahead target.cb.sender.sendUnacked.value := rfl
  have total' : sent (⟨source, action, target⟩ :: past) = sent past +
    source.cb.sender.sendNext.value.ahead target.cb.sender.sendNext.value := rfl
  have ordered := counted.ordered
  refine ⟨?_, ?_, by omega, fun small' transition member => ?_⟩
  · rw [total, ← SeqNumber.advanced_advanced, ← counted.unacked, SeqNumber.advanced_ahead]
  · rw [total', ← SeqNumber.advanced_advanced, ← counted.next, SeqNumber.advanced_ahead]
  · obtain rfl | member := List.mem_cons.mp member
    · exact ⟨moved, by dsimp only; omega⟩
    · exact counted.forward small transition member

end Counted

/-- Along a run without a half-space acknowledgement the counters are kept, and with them that no
more is acknowledged than has been sent. -/
theorem run_counted {profile : Profile} {args : NewConnection} {past : List (Transition κ ρ)}
    {state : Connection κ ρ} (run : Run profile (Connection.new args) past state)
    (counted : Runs.Follows (AckCounted profile) past) : Counted args.senderSeqNo past state := by
  refine Runs.follows_invariant (Counted args.senderSeqNo) ?_ ?_ run counted
  · exact ⟨(SeqNumber.advanced_zero _).symm, (SeqNumber.advanced_zero _).symm, Nat.le_refl _,
      by simp⟩
  · exact fun past source action target _ here counted advanced => counted.step here advanced

/-- What one segment acknowledges. A number that counts as new in order is moved to, and exactly
the bytes before it leave a queue in order; any other number, if it is not half the space ahead,
changes nothing of the sender. -/
theorem receive_acknowledges {profile : Profile} {env : Env} {header : TcpHeader} {data : Buffer}
    {source cb : ControlBlock κ ρ} (small : source.sender.outstanding < 2 ^ 31)
    (apart : ¬ source.sender.HalfSpaceAck header)
    (received : source.receive profile env header data = .ok cb) :
    let new := source.ProcessesAck profile header data ∧
      1 ≤ source.sender.sendUnacked.value.ahead header.ackNum ∧
      source.sender.sendUnacked.value.ahead header.ackNum ≤ source.sender.outstanding
    (new → cb.sender.sendUnacked.value = header.ackNum ∧
      ∃ rto, Sender.removeAcknowledged profile env.now source.sender.unackedQueue
        (source.sender.sendUnacked.value.ahead header.ackNum) source.rtoCalculator =
          .ok (cb.sender.unackedQueue, rto) ∧
        (MarkerLast (source.sender.unackedQueue.map UnackedSegment.bytes) →
          (cb.sender.unackedQueue.map UnackedSegment.bytes).flatten =
            (source.sender.unackedQueue.map UnackedSegment.bytes).flatten.drop
              (source.sender.sendUnacked.value.ahead header.ackNum))) ∧
    (¬ new → cb.sender = source.sender) := by
  have exact := (Sender.acksNew_exact_iff source.sender header small).mpr apart
  obtain ⟨-, -, ⟨reaches, after⟩ | ⟨stops, same⟩⟩ := ControlBlock.receive_acks received
  · unfold ControlBlock.SenderAfterAck at after
    split at after
    · rename_i new
      obtain ⟨rto, removed, moved, -⟩ := after.sender
      refine ⟨fun _ => ⟨by rw [moved]; rfl, rto, removed, fun ordered => ?_⟩, fun outside => ?_⟩
      · exact Sender.removeAcknowledged_left ordered removed
      exact absurd ⟨reaches, exact.mp new⟩ outside
    · rename_i old
      exact ⟨fun inside => absurd (exact.mpr inside.2) old, fun _ => after⟩
  · exact ⟨fun inside => absurd inside.1 stops, fun _ => same⟩

/-- ACK acceptance. In every state with fewer than half the sequence space
outstanding the ACK section takes a number as new exactly when it lies after
`send_unacked` and not after `send_next`, unless nothing is outstanding and the
number lies half the space ahead. Without such a number, along every run the
counters move forward and `send_unacked` does not pass `send_next`; a new number
is moved to and, in a queue in order, exactly the bytes before it are removed; any
other number changes nothing of the sender.

Proof: the first part is arithmetic on the half space. For the second, `Counted` carries
along the run that the numbers of the sender are the two counters, added to the initial
number, and their order; `receive_acknowledges` then says what the one segment does, by
whether the ACK section is reached and takes the number as new. -/
theorem ack_exact (profile : Profile) (args : NewConnection) :
    (∀ (sender : Sender) (header : TcpHeader), sender.outstanding < 2 ^ 31 →
      ((sender.acksNew header = true ↔ 1 ≤ sender.sendUnacked.value.ahead header.ackNum ∧
        sender.sendUnacked.value.ahead header.ackNum ≤ sender.outstanding) ↔
      ¬ sender.HalfSpaceAck header)) ∧
    ∀ (past : List (Transition κ ρ)) (state : Connection κ ρ),
      Run profile (Connection.new args) past state → Runs.Follows (AckCounted profile) past →
      sent past < acked past + 2 ^ 31 →
      state.cb.sender.sendUnacked.value = args.senderSeqNo.advanced (acked past) ∧
      state.cb.sender.sendNext.value = args.senderSeqNo.advanced (sent past) ∧
      acked past ≤ sent past ∧ (∀ transition ∈ past, Forward transition) ∧
      ∀ env header data cb, ¬ state.cb.sender.HalfSpaceAck header →
        state.cb.receive profile env header data = .ok cb →
        let new := state.cb.ProcessesAck profile header data ∧
          1 ≤ state.cb.sender.sendUnacked.value.ahead header.ackNum ∧
          state.cb.sender.sendUnacked.value.ahead header.ackNum ≤ state.cb.sender.outstanding
        (new → cb.sender.sendUnacked.value = header.ackNum ∧
          ∃ rto, Sender.removeAcknowledged profile env.now state.cb.sender.unackedQueue
            (state.cb.sender.sendUnacked.value.ahead header.ackNum) state.cb.rtoCalculator =
              .ok (cb.sender.unackedQueue, rto) ∧
            (MarkerLast (state.cb.sender.unackedQueue.map UnackedSegment.bytes) →
              (cb.sender.unackedQueue.map UnackedSegment.bytes).flatten =
                (state.cb.sender.unackedQueue.map UnackedSegment.bytes).flatten.drop
                  (state.cb.sender.sendUnacked.value.ahead header.ackNum))) ∧
        (¬ new → cb.sender = state.cb.sender) := by
  refine ⟨Sender.acksNew_exact_iff, fun past state run counted small => ?_⟩
  have counted := run_counted run counted
  have distance := counted.outstanding small
  exact ⟨counted.unacked, counted.next, counted.ordered, counted.forward small,
    fun env header data cb apart received => receive_acknowledges (by omega) apart received⟩

/-- Three bytes sent, two of them acknowledged, then an old acknowledgement. -/
theorem ack_exact_partial :
    ∃ past state, Run .dev (Connection.sample 1000 1000 536) past state ∧
      Runs.Follows (AckCounted .dev) past ∧ sent past = 3 ∧ acked past = 2 ∧
      state.cb.sender.sendUnacked.value = SeqNumber.ofU32 1002 ∧
      state.cb.sender.unackedQueue.map UnackedSegment.bytes = [[3]] ∧ acked past ≤ sent past := by
  have executed : ∃ past state, execute .dev (Connection.sample 1000 1000 536)
      [.send (Env.sample 0) [1, 2, 3], .segment 100 1002 [] false, .segment 100 1001 [] false] =
        .ok (past, state) ∧ Runs.Follows (AckCounted .dev) past ∧ sent past = 3 ∧ acked past = 2 ∧
      state.cb.sender.sendUnacked.value = SeqNumber.ofU32 1002 ∧
      state.cb.sender.unackedQueue.map UnackedSegment.bytes = [[3]] := by
    refine ⟨_, _, rfl, ⟨⟨by decide, fun _ => by decide⟩, ⟨by decide, fun _ => by decide⟩, ?_, trivial⟩,
      by decide, by decide, by decide, by decide⟩
    exact (by decide : 0 < 0 + 2 ^ 31)
  obtain ⟨past, state, executed, counted, total, total', unacked, queue⟩ := executed
  have run := run_of_execute executed
  have ordered := (ack_exact .dev (NewConnection.sample 1000 1000 536)).2 past state run counted
    (by rw [total, total']; decide)
  exact ⟨past, state, run, counted, total, total', unacked, queue, ordered.2.2.1⟩

/-- Nothing has been sent, and a segment acknowledges the number half the sequence
space ahead: it is taken as new, and removing it from the empty queue fails an
assertion in one profile and never returns in the other. -/
theorem ack_half_space_taken :
    let c := Connection.sample 1000 1000 536
    c.cb.sender.outstanding = 0 ∧
    c.cb.sender.acksNew { TcpHeader.new 4321 80 with
      ackNum := SeqNumber.ofU32 2147484648, ack := true } = true ∧
    c.step .dev (.segment 100 2147484648 [] false) = .error .unackedQueueEmpty ∧
    c.step .release (.segment 100 2147484648 [] false) = .error .neverReturns := by
  refine ⟨by decide, by decide, rfl, rfl⟩

end Connection

end Capybara
