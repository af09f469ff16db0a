import Capybara.Tcp.Conversation
import Capybara.Tcp.Established.Headers
import Capybara.Tcp.Established.PeerFin
import Capybara.Tcp.Established.SendIntegrity
import Capybara.Tcp.Established.StreamIntegrity

/-!
# What a conversation delivers

In every conversation, what one application reads is what the other has written, from the
beginning, in order and without a gap; whatever has been written and not received is still
held by the end that wrote it; and an end regards its peer as finished only when the peer
has closed and everything has arrived. Loss, duplication, reordering and delay of segments
do not matter, and neither do migrations of either end while it is established and open.

`Delivery` is the invariant of one direction. The sending side alone guarantees that its
segments are slices of what was written, the receiving side alone that slices make a prefix,
and the segments of the reader acknowledge no more than has arrived, so that the writer
forgets nothing too early. There is one lemma for each way a step can concern a direction.
-/

namespace Capybara

open EndMarkers OutOfOrder

variable {κ ρ : Type}

/-! ## Streams that grow -/

/-- A segment stays part of the stream while the stream grows, which it does until the
application closes. -/
theorem Emitted.keep {iss : SeqNumber} {stream : Buffer} {segment : TcpSegment} {done done' : Bool}
    (emitted : Emitted iss stream done segment) {more : Buffer}
    (closed : done = true → more = [] ∧ done' = true) :
    Emitted iss (stream ++ more) done' segment := by
  cases done with
  | false => exact emitted.extend more done'
  | true =>
    obtain ⟨nothing, still⟩ := closed rfl
    rw [nothing, List.append_nil, still]
    exact emitted

/-- What has been received is a prefix of every longer stream, as long as no FIN has been
seen. -/
theorem Streamed.extend {stream popped : Buffer} {base : SeqNumber} {cb : ControlBlock κ ρ}
    {next : Nat} (streamed : Streamed stream base popped cb next)
    (receives : cb.state.receivesData = true) (noFin : cb.outOfOrderFin = none) (more : Buffer) :
    Streamed (stream ++ more) base popped cb next := by
  obtain ⟨receiveNext, readerNext, received, position, room, small, stored, -⟩ := streamed
  rw [receives, if_pos rfl] at position
  refine ⟨receiveNext, readerNext, ?_, ?_, room, small, ?_, ?_⟩
  · rw [received, List.take_append_of_le_length position]
  · rw [receives, if_pos rfl, List.length_append]
    exact Nat.le_trans position (Nat.le_add_right _ _)
  · intro entry member
    obtain ⟨occupied, bounded, offset, begins, slice, reach⟩ := stored entry member
    exact ⟨occupied, bounded, offset, begins, slice.extend more, reach⟩
  · intro number remembered
    rw [noFin] at remembered
    cases remembered

/-- Text without a FIN leaves none behind, and data may still be received. -/
theorem ControlBlock.TextOutcome.unfinished {profile : Profile} {cb cb' : ControlBlock κ ρ}
    {text : Text} {state : State} (outcome : cb.TextOutcome profile text state cb')
    (plain : text.fin = false) (receives : state.receivesData = true)
    (noFin : cb.outOfOrderFin = none) :
    cb'.state.receivesData = true ∧ cb'.outOfOrderFin = none := by
  have open' : cb'.state.receivesData = true := by
    cases outcome with
    | ignored _ _ _ kept | stored _ _ _ _ _ kept => rw [kept, receives]
    | @joined _ _ fin _ _ _ joins _ taken =>
      have none : cb.reception.outOfOrderFin = none := noFin
      have still := joins.fin
      rw [plain, none] at still
      cases fin with
      | true => simp at still
      | false => exact (congrArg State.receivesData taken).trans receives
    | finished _ _ fin => exact absurd (plain.symm.trans fin) Bool.false_ne_true
  refine ⟨open', ?_⟩
  rw [outcome.remembered receives open', Reception.rememberFin, plain]
  exact noFin

variable [CongestionControl κ] [RtoCalculator ρ]

/-- An established and open connection is rebuilt as it was, with nothing sent yet from its
new place. -/
theorem ControlBlock.migrate_agrees {profile : Profile} {application : Option ApplicationState}
    {importer : Importer} {localAddr : SocketAddrV4} {cb rebuilt : ControlBlock κ ρ}
    (migrated : cb.migrate profile application importer localAddr = .ok rebuilt)
    (established : cb.state = .established) (sending : cb.userIsDoneSending = false) :
    rebuilt.Agrees cb ∧ rebuilt.transmitted = [] := by
  obtain ⟨exportable, rfl⟩ := ControlBlock.migrate_ok.mp migrated
  refine ⟨?_, rfl⟩
  constructor
  case state => exact established.symm
  case userIsDoneSending => exact sending.symm
  case mss => exact UInt32.toNat_ofNat_of_lt' exportable.1
  case unackedQueue =>
    change (cb.sender.unackedQueue.map UnackedSegment.untimed).map UnackedSegment.bytes = _
    rw [List.map_map]
    rfl
  all_goals rfl

/-- After `close` nothing more is accepted. -/
theorem Connection.accepted_of_done {profile : Profile} {source target : Connection κ ρ}
    (action : Action) (done : source.cb.userIsDoneSending = true) :
    Connection.accepted profile ⟨source, action, target⟩ = [] := by
  cases action with
  | send env buf =>
    unfold Connection.accepted
    dsimp only
    rw [ControlBlock.send, if_pos done]
  | receive | pollRecv | close | senderRound | retransmitterRound | acknowledgerRound => rfl

omit [CongestionControl κ] [RtoCalculator ρ] in
/-- Whatever a sender emits is of the stream for the other end. -/
theorem Emitted.streamSegment {iss : SeqNumber} {stream : Buffer} {done : Bool}
    {segment : TcpSegment} (emitted : Emitted iss stream done segment)
    (noSyn : segment.tcpHdr.syn = false) (noReset : segment.tcpHdr.rst = false) :
    StreamSegment stream iss segment.tcpHdr (segment.data.getD []) := by
  refine ⟨noSyn, noReset, ?_⟩
  cases emitted with
  | ack plain quiet => exact .inl ⟨by rw [plain]; rfl, quiet⟩
  | data offset bytes carries _ slice =>
    refine .inr ⟨offset, carries.seqNum, by rw [carries.body]; exact slice, fun fin => ?_⟩
    cases carries.fin.symm.trans fin
  | fin _ carries =>
    refine .inr ⟨stream.length, carries.seqNum, ?_, fun _ => by rw [carries.body]; rfl⟩
    rw [carries.body]
    exact ⟨Nat.le_refl _, by simp⟩

/-- A segment of the handshake that came before: a SYN without text, at the number before the
stream. -/
structure Stale (iss : SeqNumber) (segment : TcpSegment) : Prop where
  syn : segment.tcpHdr.syn = true
  noFin : segment.tcpHdr.fin = false
  empty : segment.data = none
  number : segment.tcpHdr.seqNum.advanced 1 = iss

/-- Such a segment lies before everything that may be received: it is answered at most. -/
theorem Stale.received {iss : SeqNumber} {stream popped : Buffer} {cb cb' : ControlBlock κ ρ}
    {next : Nat} {segment : TcpSegment} {profile : Profile} {env : Env} (stale : Stale iss segment)
    (streamed : Streamed stream iss popped cb next) (short : stream.length + 1 < 2 ^ 31)
    (received : cb.receive profile env segment.tcpHdr (segment.data.getD []) = .ok cb') :
    cb' = cb ∨ cb.sendAck profile env = .ok cb' := by
  have bound := streamed.next_le
  have length : sequenceLength segment.tcpHdr (segment.data.getD []) = 1 := by
    rw [sequenceLength, stale.empty, stale.syn, stale.noFin]
    rfl
  have position : cb.receiver.receiveNext.position segment.tcpHdr.seqNum = -(next + 1 : Int) := by
    rw [streamed.receiveNext, ← stale.number, SeqNumber.advanced_advanced]
    have back : (segment.tcpHdr.seqNum.advanced (1 + next)).position
        (segment.tcpHdr.seqNum.advanced 0) = ((0 : Nat) : Int) - (1 + next : Nat) :=
      SeqNumber.position_advanced _ (by omega) (by omega)
    rw [SeqNumber.advanced_zero] at back
    rw [back]
    omega
  have refused : ¬ cb.Acceptable segment.tcpHdr (segment.data.getD []) := by
    simp only [ControlBlock.Acceptable, position, length]
    omega
  have sound : ¬ cb.ClosedWindowFault profile segment.tcpHdr (segment.data.getD []) := by
    rintro ⟨-, same, -⟩
    rw [same] at position
    unfold SeqNumber.position at position
    split at position
    · rw [SeqNumber.ahead_self] at position
      omega
    · omega
  obtain ⟨-, trims⟩ | ⟨acceptable, -⟩ := ControlBlock.trimToWindow_cases profile
    (streamed.settled (Nat.lt_of_succ_lt short)) (by omega) sound
  · cases ControlBlock.receive_passes received with
    | dropped => exact .inl rfl
    | answered refused sent => exact .inr sent
    | reset trims' | syn trims' | silent trims' | acknowledged trims' =>
      cases trims.symm.trans trims'
  · exact absurd acceptable refused

omit [CongestionControl κ] [RtoCalculator ρ] in
/-- A rebuilt control block sends on where the original stopped. -/
theorem Sending.migrated {iss : SeqNumber} {stream : Buffer} {acked : Nat}
    {rebuilt original : ControlBlock κ ρ}
    (sending : Sending iss stream acked original.sender original.userIsDoneSending)
    (agrees : rebuilt.Agrees original) :
    Sending iss stream acked rebuilt.sender rebuilt.userIsDoneSending := by
  have unacked : rebuilt.sender.unackedBuffers = original.sender.unackedBuffers :=
    agrees.unackedQueue
  have pending : rebuilt.sender.pending = original.sender.pending := by
    rw [Sender.pending, unacked, agrees.unsentQueue, Sender.pending]
  rw [agrees.userIsDoneSending]
  refine ⟨by rw [pending]; exact sending.ordered, by rw [pending]; exact sending.data,
    by rw [pending]; exact sending.marked, by rw [pending]; exact sending.total,
    by rw [agrees.sendUnacked]; exact sending.unacked, ?_, ?_, by rw [agrees.mss]; exact sending.mss⟩
  · rw [agrees.sendNext, unacked]
    exact sending.next
  · rw [agrees.unsentSeqNo, agrees.sendNext, agrees.unsentQueue]
    exact sending.unsent

omit [CongestionControl κ] [RtoCalculator ρ] in
/-- The receiving side is rebuilt as it was. -/
theorem ControlBlock.Agrees.reception {rebuilt original : ControlBlock κ ρ}
    (agrees : rebuilt.Agrees original) : rebuilt.reception = original.reception := by
  simp only [ControlBlock.reception, agrees.receiver, agrees.outOfOrder, agrees.outOfOrderFin,
    agrees.receiveBufferSize, agrees.windowScale]

omit [CongestionControl κ] [RtoCalculator ρ] in
/-- A step whose queues are not marked keeps the stream, if the stream is short. -/
theorem Transmits.kept {iss : SeqNumber} {stream : Buffer} {acked : Nat} {c : Connection κ ρ}
    (holds : Transmits iss stream acked c.cb.view c.task) (short : stream.length < 2 ^ 31)
    {action : Action} (unmarked : Conversation.Unmarked c action) : c.StreamKept action := by
  have held : c.cb.sender.held = (stream.drop acked).length :=
    congrArg List.length holds.sending.data
  rw [List.length_drop] at held
  have small : c.cb.sender.held + 1 < 2 ^ 32 := by omega
  cases action with
  | send | senderRound => exact ⟨small, unmarked⟩
  | receive | pollRecv | close | retransmitterRound | acknowledgerRound => exact small

omit [CongestionControl κ] in
/-- An acknowledgement of no more than has arrived moves `send_unacked` no further. -/
theorem Sending.acked_le {iss : SeqNumber} {stream : Buffer} {acked count : Nat} {done : Bool}
    {now : Instant} {profile : Profile} {cb : ControlBlock κ ρ} {header : TcpHeader}
    {sender' : Sender} (sending : Sending iss stream acked cb.sender done)
    (short : stream.length < 2 ^ 31) (small : cb.sender.held + 1 < 2 ^ 32)
    (bounded : count < 2 ^ 32) (number : header.ackNum = iss.advanced count)
    (after : cb.SenderAfterAck profile now header sender') :
    acked + cb.sender.sendUnacked.value.ahead sender'.sendUnacked.value ≤ max acked count := by
  unfold ControlBlock.SenderAfterAck at after
  split at after
  · rename_i new
    obtain ⟨rto, removed, moved, -⟩ := after.sender
    have reached : sender'.sendUnacked.value = iss.advanced count := by
      rw [moved]
      exact number
    obtain within | corner := Sender.acksNew_within new
    · have total := sending.total
      have last := Bool.toNat_le done
      have behind := SeqNumber.ahead_advanced_of_lt iss (show acked < 2 ^ 32 by omega)
      have ahead := SeqNumber.ahead_advanced_of_lt iss bounded
      rw [Sending.spans_pending] at total
      rw [sending.outstanding_eq small, number, sending.unacked] at within
      rw [reached, sending.unacked]
      obtain ordered | beyond := Nat.lt_or_ge count acked
      -- An older number would lie almost a turn ahead, past everything outstanding.
      · rw [SeqNumber.ahead_around iss (by omega)] at within
        omega
      · rw [SeqNumber.ahead_between iss (by omega)]
        omega
    · exact absurd removed (sending.halfSpace_stuck profile now cb.rtoCalculator small corner _)
  · rw [after, SeqNumber.ahead_self]
    exact Nat.le_max_left _ _

namespace Conversation

/-! ## One direction -/

/-- What holds from one end to the other: `read` bytes have been read and `next` numbers
received of what has been `written`, and `acked` numbers acknowledged. What was sent before
may stem from the handshake. -/
structure Delivery (iss : SeqNumber) (written read : Buffer) (acked next : Nat)
    (writer reader : Endpoint κ ρ) : Prop where
  transmits : Transmits iss written acked writer.connection.cb.view writer.connection.task
  emitted : ∀ segment ∈ writer.earlier, Stale iss segment ∨ segment.tcpHdr.syn = false ∧
    Emitted iss written writer.connection.cb.userIsDoneSending segment
  streamed : Streamed written iss read reader.connection.cb next
  answered : ∀ segment ∈ reader.earlier, segment.tcpHdr.syn = false →
    ∃ count, count ≤ next ∧ segment.tcpHdr.Continues (iss.advanced count)
  heard : reader.connection.cb.Heard fun number => ∃ count, count ≤ next ∧ number = iss.advanced count
  behind : acked ≤ next
  unfinished : writer.connection.cb.userIsDoneSending = false →
    reader.connection.cb.state.receivesData = true ∧ reader.connection.cb.outOfOrderFin = none

namespace Delivery

variable {iss : SeqNumber} {written read : Buffer} {acked next : Nat}
  {writer reader : Endpoint κ ρ} {profile : Profile} {action : Action} {connection : Connection κ ρ}
  {segment : TcpSegment}

omit [CongestionControl κ] [RtoCalculator ρ] in
/-- Whatever has been sent for the reader, the handshake apart, acknowledges what has
arrived. -/
theorem answers (delivery : Delivery iss written read acked next writer reader)
    (member : segment ∈ reader.sent) (noSyn : segment.tcpHdr.syn = false) :
    ∃ count, count ≤ next ∧ segment.tcpHdr.Continues (iss.advanced count) := by
  obtain earlier | own := List.mem_append.mp member
  · exact delivery.answered segment earlier noSyn
  · obtain ⟨number, ⟨count, arrived, rfl⟩, continues⟩ := delivery.heard segment own
    exact ⟨count, arrived, continues⟩

omit [CongestionControl κ] [RtoCalculator ρ] in
/-- No segment of the reader's connection opens one. -/
theorem heard_noSyn (delivery : Delivery iss written read acked next writer reader)
    (own : segment ∈ reader.connection.cb.transmitted) : segment.tcpHdr.syn = false := by
  obtain ⟨number, -, continues⟩ := delivery.heard segment own
  exact continues.noSyn

omit [CongestionControl κ] [RtoCalculator ρ] in
/-- Whatever has been sent for the writer is part of the stream or of the handshake. -/
theorem sent (delivery : Delivery iss written read acked next writer reader)
    (noSyn : ∀ segment ∈ writer.connection.cb.transmitted, segment.tcpHdr.syn = false)
    (member : segment ∈ writer.sent) : Stale iss segment ∨ segment.tcpHdr.syn = false ∧
      Emitted iss written writer.connection.cb.userIsDoneSending segment := by
  obtain earlier | own := List.mem_append.mp member
  · exact delivery.emitted segment earlier
  · exact .inr ⟨noSyn segment own, delivery.transmits.emitted segment own⟩

/-- The writer acts by itself. -/
theorem writer_acts (delivery : Delivery iss written read acked next writer reader)
    (short : written.length < 2 ^ 31) (unmarked : Unmarked writer.connection action)
    (own : action.arrives = false)
    (advanced : writer.connection.step profile action = .ok connection) :
    Delivery iss (written ++ Connection.accepted profile ⟨writer.connection, action, connection⟩)
      read acked next { writer with connection } reader := by
  obtain ⟨transmits, emitted, streamed, answered, heard, behind, unfinished⟩ := delivery
  have further := Connection.step_transmits (transmits.kept short unmarked) transmits advanced
  have unacked : connection.cb.sender.sendUnacked = writer.connection.cb.sender.sendUnacked := by
    cases action with
    | receive => cases own
    | pollRecv =>
      cases advanced
      simp only [ControlBlock.pollRecv]
      split <;> rfl
    | send | close | senderRound | retransmitterRound | acknowledgerRound =>
      exact (Connection.step_undisturbed rfl advanced).unacked
  rw [unacked, SeqNumber.ahead_self, Nat.add_zero] at further
  have closes := Connection.step_closed advanced
  -- Once closed, the writer accepts nothing and stays closed.
  have closed (done : writer.connection.cb.userIsDoneSending = true) :
      Connection.accepted profile ⟨writer.connection, action, connection⟩ = [] ∧
      connection.cb.userIsDoneSending = true :=
    ⟨Connection.accepted_of_done action done, by rw [closes, done, Bool.or_true]⟩
  have opened (active : connection.cb.userIsDoneSending = false) :
      writer.connection.cb.userIsDoneSending = false := by
    rw [closes, Bool.or_eq_false_iff] at active
    exact active.2
  refine ⟨further, fun segment member =>
    (emitted segment member).imp_right (And.imp_right fun whole => whole.keep closed), ?_, answered,
    heard, behind, fun active => unfinished (opened active)⟩
  cases done : writer.connection.cb.userIsDoneSending with
  | true =>
    rw [(closed done).1, List.append_nil]
    exact streamed
  | false =>
    obtain ⟨receives, noFin⟩ := unfinished done
    exact streamed.extend receives noFin _

/-- What the reader sends in a step that takes it further acknowledges what has arrived. -/
theorem heard_further (delivery : Delivery iss written read acked next writer reader) {next' : Nat}
    (further : next ≤ next') (reached : connection.cb.receiver.receiveNext = iss.advanced next')
    (advanced : reader.connection.step profile action = .ok connection) :
    connection.cb.Heard fun number => ∃ count, count ≤ next' ∧ number = iss.advanced count := by
  refine Connection.step_heard advanced ⟨next, further, delivery.streamed.receiveNext⟩
    ⟨next', Nat.le_refl _, reached⟩ fun segment member => ?_
  obtain ⟨number, ⟨count, arrived, same⟩, continues⟩ := delivery.heard segment member
  exact ⟨number, ⟨count, Nat.le_trans arrived further, same⟩, continues⟩

/-- The reader goes further in the stream. -/
theorem reader_further (delivery : Delivery iss written read acked next writer reader) {next' : Nat}
    (further : next ≤ next')
    (streamed : Streamed written iss
      (read ++ Connection.popped ⟨reader.connection, action, connection⟩) connection.cb next')
    (unfinished : writer.connection.cb.userIsDoneSending = false →
      connection.cb.state.receivesData = true ∧ connection.cb.outOfOrderFin = none)
    (advanced : reader.connection.step profile action = .ok connection) :
    Delivery iss written (read ++ Connection.popped ⟨reader.connection, action, connection⟩) acked
      next' writer { reader with connection } := by
  refine ⟨delivery.transmits, delivery.emitted, streamed, fun segment member noSyn => ?_,
    delivery.heard_further further streamed.receiveNext advanced,
    Nat.le_trans delivery.behind further, unfinished⟩
  obtain ⟨count, arrived, continues⟩ := delivery.answered segment member noSyn
  exact ⟨count, Nat.le_trans arrived further, continues⟩

/-- The reader acts by itself. -/
theorem reader_acts (delivery : Delivery iss written read acked next writer reader)
    (short : written.length < 2 ^ 31) (own : action.arrives = false)
    (advanced : reader.connection.step profile action = .ok connection) :
    ∃ next', Delivery iss written
      (read ++ Connection.popped ⟨reader.connection, action, connection⟩) acked next' writer
      { reader with connection } := by
  have ofStream : OfStream written iss reader.connection action := by
    cases action with
    | receive => cases own
    | pollRecv | send | close | senderRound | retransmitterRound | acknowledgerRound => trivial
  obtain ⟨next', further, streamed⟩ := delivery.streamed.step_forward short ofStream advanced
  refine ⟨next', delivery.reader_further further streamed (fun active => ?_) advanced⟩
  obtain ⟨receives, noFin⟩ := delivery.unfinished active
  have other (env : Env) (header : TcpHeader) (data : Buffer) :
      action ≠ .receive env header data := by
    rintro rfl
    cases own
  refine ⟨(Connection.step_receivesData other advanced).trans receives, ?_⟩
  cases action with
  | receive => cases own
  | pollRecv =>
    cases advanced
    simp only [ControlBlock.pollRecv]
    split <;> exact noFin
  | send | close | senderRound | retransmitterRound | acknowledgerRound =>
    have same := (Connection.step_undisturbed rfl advanced).reception
    exact (congrArg Reception.outOfOrderFin same).trans noFin

/-- A segment of the reader arrives at the writer. -/
theorem writer_hears {env : Env} {data : Buffer}
    (delivery : Delivery iss written read acked next writer reader)
    (short : written.length < 2 ^ 31) (member : segment ∈ reader.sent)
    (noSyn : segment.tcpHdr.syn = false)
    (advanced : writer.connection.step profile (.receive env segment.tcpHdr data) =
      .ok connection) :
    ∃ acked', Delivery iss written read acked' next { writer with connection } reader := by
  obtain ⟨count, arrived, continues⟩ := delivery.answers member noSyn
  have bounded := delivery.streamed.next_le
  obtain ⟨transmits, emitted, streamed, answered, heard, behind, unfinished⟩ := delivery
  have kept : writer.connection.StreamKept (.receive env segment.tcpHdr data) :=
    transmits.kept short trivial
  have further := Connection.step_transmits kept transmits advanced
  have closes := Connection.step_closed advanced
  rw [show Connection.accepted profile ⟨writer.connection, .receive env segment.tcpHdr data,
    connection⟩ = [] from rfl, List.append_nil] at further
  refine ⟨_, further, fun segment member => ?_, streamed, answered, heard, ?_, ?_⟩
  · change _ ∨ _ ∧ Emitted iss written connection.cb.userIsDoneSending segment
    rw [closes]
    exact emitted segment member
  · obtain ⟨cb, received, advanced⟩ := bind_ok.mp advanced
    cases advanced
    obtain ⟨-, -, ⟨-, after⟩ | ⟨-, same⟩⟩ := ControlBlock.receive_acks received
    · have reached := transmits.sending.acked_le short kept.small (by omega) continues.ackNum after
      exact Nat.le_trans reached (Nat.max_le.mpr ⟨behind, arrived⟩)
    · rw [same, SeqNumber.ahead_self]
      exact behind
  · change connection.cb.userIsDoneSending = false → _
    rw [closes]
    exact unfinished

/-- A segment of the writer arrives at the reader. -/
theorem reader_hears {env : Env}
    (delivery : Delivery iss written read acked next writer reader)
    (short : written.length < 2 ^ 31)
    (emitted : Emitted iss written writer.connection.cb.userIsDoneSending segment)
    (noSyn : segment.tcpHdr.syn = false) (noReset : segment.tcpHdr.rst = false)
    (advanced : reader.connection.step profile
      (.receive env segment.tcpHdr (segment.data.getD [])) = .ok connection) :
    ∃ next', Delivery iss written read acked next' writer { reader with connection } := by
  have ofStream : OfStream written iss reader.connection
      (.receive env segment.tcpHdr (segment.data.getD [])) := emitted.streamSegment noSyn noReset
  obtain ⟨next', further, streamed⟩ := delivery.streamed.step_forward short ofStream advanced
  have reached := delivery.reader_further further streamed (fun active => ?_) advanced
  · rw [show Connection.popped ⟨reader.connection, .receive env segment.tcpHdr
      (segment.data.getD []), connection⟩ = [] from rfl, List.append_nil] at reached
    exact ⟨next', reached⟩
  -- Before the writer closes, no segment of it carries a FIN.
  obtain ⟨receives, noFin⟩ := delivery.unfinished active
  have plain : segment.tcpHdr.fin = false := by
    rw [active] at emitted
    cases emitted with
    | ack _ quiet => exact quiet
    | data _ _ carries _ _ => exact carries.fin
    | fin closed _ => cases closed
  obtain ⟨cb, received, advanced⟩ := bind_ok.mp advanced
  cases advanced
  have outcome := (ControlBlock.receive_cases (delivery.streamed.settled short)
    (StreamSegment.short ofStream short) received).text
  split at outcome
  · refine outcome.unfinished ?_ ?_ noFin
    · simp [ControlBlock.textInWindow, plain]
    · rw [ControlBlock.stateAfterAck_receivesData, receives]
  · obtain ⟨same, kept | ⟨-, reset⟩⟩ := outcome
    · exact ⟨(congrArg State.receivesData kept).trans receives,
        (congrArg Reception.outOfOrderFin same).trans noFin⟩
    · rw [noSyn, noReset] at reset
      simp at reset

omit [CongestionControl κ] [RtoCalculator ρ] in
/-- The writer answers what it has refused. -/
theorem writer_answers {env : Env} {cb : ControlBlock κ ρ}
    (delivery : Delivery iss written read acked next writer reader)
    (answer : writer.connection.cb.sendAck profile env = .ok cb) :
    Delivery iss written read acked next { writer with connection := { writer.connection with cb } }
      reader := by
  obtain ⟨sender, done, acks, pure, sent⟩ := ControlBlock.sendAck_onlyAcks answer
  obtain ⟨transmits, emitted, streamed, answered, heard, behind, unfinished⟩ := delivery
  have same : cb.view.sender = writer.connection.cb.view.sender := sender
  have still : cb.view.userIsDoneSending = writer.connection.cb.view.userIsDoneSending := done
  refine ⟨⟨?_, ?_, ?_⟩, ?_, streamed, answered, heard, behind, ?_⟩
  · rw [same, still]
    exact transmits.sending
  · rw [same]
    exact transmits.task
  · rw [still, show cb.view.transmitted = writer.connection.cb.view.transmitted ++ acks from sent]
    exact transmits.acknowledges pure
  · change ∀ segment ∈ writer.earlier, _ ∨ _ ∧ Emitted iss written cb.userIsDoneSending segment
    rw [done]
    exact emitted
  · change cb.userIsDoneSending = false → _
    rw [done]
    exact unfinished

omit [CongestionControl κ] [RtoCalculator ρ] in
/-- The reader answers what it has refused. -/
theorem reader_answers {env : Env} {cb : ControlBlock κ ρ}
    (delivery : Delivery iss written read acked next writer reader)
    (answer : reader.connection.cb.sendAck profile env = .ok cb) :
    Delivery iss written read acked next writer
      { reader with connection := { reader.connection with cb } } := by
  obtain ⟨-, acks, -, seen⟩ := ControlBlock.sendAck_ok answer
  have reception : cb.reception = reader.connection.cb.reception := congrArg View.reception seen
  have state : cb.state = reader.connection.cb.state := congrArg View.state seen
  obtain ⟨transmits, emitted, streamed, answered, heard, behind, unfinished⟩ := delivery
  refine ⟨transmits, emitted, streamed.of_eq reception (congrArg State.receivesData state), answered,
    ControlBlock.sendAck_heard answer ⟨next, Nat.le_refl _, streamed.receiveNext⟩ heard, behind,
    fun active => ?_⟩
  obtain ⟨receives, noFin⟩ := unfinished active
  exact ⟨(congrArg State.receivesData state).trans receives,
    (congrArg Reception.outOfOrderFin reception).trans noFin⟩

omit [CongestionControl κ] [RtoCalculator ρ] in
/-- The writer moves to another server. -/
theorem writer_migrates {rebuilt : ControlBlock κ ρ}
    (delivery : Delivery iss written read acked next writer reader)
    (noSyn : ∀ segment ∈ writer.connection.cb.transmitted, segment.tcpHdr.syn = false)
    (agrees : rebuilt.Agrees writer.connection.cb) (fresh : rebuilt.transmitted = []) :
    Delivery iss written read acked next ⟨⟨rebuilt, .top⟩, writer.sent⟩ reader := by
  refine ⟨⟨?_, .rests rfl, ?_⟩, ?_, delivery.streamed, delivery.answered, delivery.heard,
    delivery.behind, ?_⟩
  · exact delivery.transmits.sending.migrated agrees
  · change ∀ segment ∈ rebuilt.transmitted, _
    rw [fresh]
    simp
  · intro segment member
    change _ ∨ _ ∧ Emitted iss written rebuilt.userIsDoneSending segment
    rw [agrees.userIsDoneSending]
    exact delivery.sent noSyn member
  · change rebuilt.userIsDoneSending = false → _
    rw [agrees.userIsDoneSending]
    exact delivery.unfinished

omit [CongestionControl κ] [RtoCalculator ρ] in
/-- The reader moves to another server. -/
theorem reader_migrates {rebuilt : ControlBlock κ ρ}
    (delivery : Delivery iss written read acked next writer reader)
    (agrees : rebuilt.Agrees reader.connection.cb) (fresh : rebuilt.transmitted = []) :
    Delivery iss written read acked next writer ⟨⟨rebuilt, .top⟩, reader.sent⟩ := by
  refine ⟨delivery.transmits, delivery.emitted, ?_,
    fun segment member noSyn => delivery.answers member noSyn,
    ?_, delivery.behind, ?_⟩
  · exact delivery.streamed.of_eq agrees.reception (congrArg State.receivesData agrees.state)
  · change rebuilt.Heard _
    rw [ControlBlock.Heard, fresh]
    simp
  · intro active
    obtain ⟨receives, noFin⟩ := delivery.unfinished active
    exact ⟨(congrArg State.receivesData agrees.state).trans receives,
      agrees.outOfOrderFin.trans noFin⟩

end Delivery

/-! ## Both directions -/

/-- Both directions deliver. -/
def Delivering (iss : Side → SeqNumber) (written read : Side → Buffer)
    (conversation : Conversation κ ρ) : Prop :=
  ∀ side, ∃ acked next, Delivery (iss side) (written side) (read side.other) acked next
    (conversation side) (conversation side.other)

omit [CongestionControl κ] [RtoCalculator ρ] in
/-- What one end does leaves the other as it was. -/
theorem update_other (conversation : Conversation κ ρ) (side : Side) (endpoint : Endpoint κ ρ) :
    Function.update conversation side endpoint side.other = conversation side.other :=
  Function.update_of_ne side.other_ne _ _

omit [CongestionControl κ] [RtoCalculator ρ] in
/-- What happens at one end leaves the other one. -/
theorem update_of_other (conversation : Conversation κ ρ) (side : Side) (endpoint : Endpoint κ ρ) :
    Function.update conversation side.other endpoint side = conversation side :=
  Function.update_of_ne side.other_ne.symm _ _

/-- Two control blocks that continue each other deliver nothing so far, whatever their
handshake has sent. -/
theorem fresh_delivery {args : Side → NewConnection} {conversation : Conversation κ ρ}
    (mirrored : Mirrored args) (side : Side)
    (fresh : ∀ side, (conversation side).connection = Connection.new (args side))
    (opened : ∀ segment ∈ (conversation side).earlier, Stale (args side).senderSeqNo segment ∨
      segment.tcpHdr.syn = false ∧ Emitted (args side).senderSeqNo [] false segment)
    (answered : ∀ segment ∈ (conversation side.other).earlier, segment.tcpHdr.syn = false →
      segment.tcpHdr.Continues (args side).senderSeqNo) :
    Delivery (args side).senderSeqNo [] [] 0 0 (conversation side) (conversation side.other) := by
  have start : (Connection.new (κ := κ) (ρ := ρ) (args side.other)).cb.receiver.receiveNext =
      (args side).senderSeqNo.advanced 0 := by
    rw [SeqNumber.advanced_zero, ← mirrored.numbers]
    rfl
  refine ⟨⟨?_, ?_, ?_⟩, ?_, ?_, ?_, ?_, Nat.le_refl _, fun _ => ?_⟩
  · rw [fresh]
    exact ⟨trivial, rfl, fun marker => absurd marker (by simp [Connection.new, ControlBlock.new,
      ControlBlock.view, Sender.new, Sender.pending, Sender.unackedBuffers]), rfl,
      (SeqNumber.advanced_zero _).symm, (SeqNumber.advanced_zero _).symm,
      (SeqNumber.advanced_zero _).symm, mirrored.mss side⟩
  · rw [fresh]
    exact .rests rfl
  · rw [fresh]
    intro segment member
    cases member
  · rw [fresh]
    exact opened
  · rw [fresh]
    exact ⟨start, start, rfl, Nat.zero_le _, Nat.zero_le _, mirrored.buffers side.other,
      fun entry member => (by cases member), fun number remembered => (by cases remembered)⟩
  · intro segment member noSyn
    refine ⟨0, Nat.le_refl _, ?_⟩
    rw [SeqNumber.advanced_zero]
    exact answered segment member noSyn
  · rw [fresh]
    intro segment member
    cases member
  · rw [fresh]
    exact ⟨rfl, rfl⟩

namespace Delivering

variable {iss : Side → SeqNumber} {written read : Side → Buffer} {conversation : Conversation κ ρ}
  {profile : Profile} {side : Side}

omit [CongestionControl κ] [RtoCalculator ρ] in
/-- What has been sent for an end is of its handshake, or a part of its stream that
acknowledges what has arrived from the other. -/
theorem sent (delivering : Delivering iss written read conversation) {segment : TcpSegment}
    (member : segment ∈ (conversation side).sent) :
    Stale (iss side) segment ∨ segment.tcpHdr.syn = false ∧ segment.tcpHdr.rst = false ∧
      Emitted (iss side) (written side) (conversation side).connection.cb.userIsDoneSending
        segment := by
  obtain ⟨_, _, here⟩ := delivering side
  obtain ⟨_, _, there⟩ := delivering side.other
  rw [Side.other_other] at there
  refine (here.sent (fun _ own => there.heard_noSyn own) member).imp_right fun ⟨noSyn, whole⟩ => ?_
  obtain ⟨_, -, continues⟩ := there.answers member noSyn
  exact ⟨noSyn, continues.noReset, whole⟩

/-- An end acts by itself. -/
theorem acts (delivering : Delivering iss written read conversation)
    (short : ∀ side, (written side).length < 2 ^ 31) {own : OwnAction} {connection : Connection κ ρ}
    (unmarked : Unmarked (conversation side).connection own.action)
    (advanced : (conversation side).connection.step profile own.action = .ok connection)
    {written' read' : Side → Buffer}
    (writes : ∀ side', written' side' = written side' ++ if side = side' then
      Connection.accepted profile ⟨(conversation side).connection, own.action, connection⟩ else [])
    (reads : ∀ side', read' side' = read side' ++ if side = side' then
      Connection.popped ⟨(conversation side).connection, own.action, connection⟩ else []) :
    Delivering iss written' read' (conversation.advance side connection) := by
  intro writer
  obtain ⟨acked, next, delivery⟩ := delivering writer
  rw [writes, reads]
  obtain rfl | rfl := writer.eq_or_other side
  · have further := delivery.writer_acts (short side) unmarked own.own advanced
    refine ⟨acked, next, ?_⟩
    rw [if_pos rfl, if_neg side.other_ne.symm, List.append_nil, advance, Function.update_self,
      update_other]
    exact further
  · obtain ⟨next', further⟩ := delivery.reader_acts (short writer) own.own advanced
    refine ⟨acked, next', ?_⟩
    rw [if_neg writer.other_ne, if_pos rfl, List.append_nil, advance, Function.update_self,
      update_of_other]
    exact further

/-- A segment of the other end arrives. -/
theorem arrives (delivering : Delivering iss written read conversation)
    (short : ∀ side, (written side).length + 1 < 2 ^ 31) {env : Env} {segment : TcpSegment}
    {connection : Connection κ ρ} (member : segment ∈ (conversation side.other).sent)
    (advanced : (conversation side).connection.step profile
      (.receive env segment.tcpHdr (segment.data.getD [])) = .ok connection) :
    Delivering iss written read (conversation.advance side connection) := by
  have within (side : Side) : (written side).length < 2 ^ 31 := Nat.lt_of_succ_lt (short side)
  obtain stale | ⟨noSyn, noReset, whole⟩ := delivering.sent member
  -- What is left of a handshake is answered at most.
  · obtain ⟨cb, received, rest⟩ := bind_ok.mp advanced
    cases rest
    obtain ⟨_, _, incoming⟩ := delivering side.other
    rw [Side.other_other] at incoming
    obtain rfl | answer := stale.received incoming.streamed (short _) received
    · rw [advance, show ({ conversation side with connection := ⟨(conversation side).connection.cb,
        (conversation side).connection.task⟩ } : Endpoint κ ρ) = conversation side from rfl,
        Function.update_eq_self]
      exact delivering
    intro writer
    obtain ⟨acked, next, delivery⟩ := delivering writer
    refine ⟨acked, next, ?_⟩
    obtain rfl | rfl := writer.eq_or_other side
    · rw [advance, Function.update_self, update_other]
      exact delivery.writer_answers answer
    · rw [advance, Function.update_self, update_of_other]
      exact delivery.reader_answers answer
  intro writer
  obtain ⟨acked, next, delivery⟩ := delivering writer
  obtain rfl | rfl := writer.eq_or_other side
  · obtain ⟨acked', further⟩ := delivery.writer_hears (within _) member noSyn advanced
    refine ⟨acked', next, ?_⟩
    rw [advance, Function.update_self, update_other]
    exact further
  · rw [Side.other_other] at whole
    obtain ⟨next', further⟩ := delivery.reader_hears (within _) whole noSyn noReset advanced
    refine ⟨acked, next', ?_⟩
    rw [advance, Function.update_self, update_of_other]
    exact further

/-- An end moves to another server. -/
theorem migrates (delivering : Delivering iss written read conversation)
    {application : Option ApplicationState} {importer : Importer} {localAddr : SocketAddrV4}
    {rebuilt : ControlBlock κ ρ} (established : (conversation side).connection.cb.state = .established)
    (sending : (conversation side).connection.cb.userIsDoneSending = false)
    (migrated : (conversation side).connection.cb.migrate profile application importer localAddr =
      .ok rebuilt) :
    Delivering iss written read
      (Function.update conversation side ⟨⟨rebuilt, .top⟩, (conversation side).sent⟩) := by
  obtain ⟨agrees, none⟩ := ControlBlock.migrate_agrees migrated established sending
  intro writer
  obtain ⟨acked, next, delivery⟩ := delivering writer
  refine ⟨acked, next, ?_⟩
  obtain rfl | rfl := writer.eq_or_other side
  · obtain ⟨_, _, opposite⟩ := delivering side.other
    rw [Side.other_other] at opposite
    rw [Function.update_self, update_other]
    exact delivery.writer_migrates (fun _ own => opposite.heard_noSyn own) agrees none
  · rw [Function.update_self, update_of_other]
    exact delivery.reader_migrates agrees none

omit [CongestionControl κ] [RtoCalculator ρ] in
/-- More of the handshake has been sent for an end: SYNs, and acknowledgements of the other
end's. -/
theorem handshakes (delivering : Delivering iss written read conversation) (side : Side)
    {more : List TcpSegment}
    (each : ∀ segment ∈ more, Stale (iss side) segment ∨ segment.data = none ∧
      segment.tcpHdr.fin = false ∧ segment.tcpHdr.Continues (iss side.other)) :
    Delivering iss written read (Function.update conversation side
      { conversation side with earlier := (conversation side).earlier ++ more }) := by
  intro writer
  obtain ⟨acked, next, transmits, emitted, streamed, answered, heard, behind, unfinished⟩ :=
    delivering writer
  refine ⟨acked, next, ?_⟩
  obtain rfl | rfl := writer.eq_or_other side
  · rw [Function.update_self, update_other]
    refine ⟨transmits, fun segment member => ?_, streamed, answered, heard, behind, unfinished⟩
    obtain earlier | own := List.mem_append.mp member
    · exact emitted segment earlier
    · obtain stale | ⟨plain, noFin, continues⟩ := each segment own
      · exact .inl stale
      · exact .inr ⟨continues.noSyn, .ack plain noFin⟩
  · rw [Function.update_self, update_of_other]
    refine ⟨transmits, emitted, streamed, fun segment member noSyn => ?_, heard, behind, unfinished⟩
    obtain earlier | own := List.mem_append.mp member
    · exact answered segment earlier noSyn
    · obtain stale | ⟨-, -, continues⟩ := each segment own
      · cases stale.syn.symm.trans noSyn
      · rw [Side.other_other] at continues
        refine ⟨0, Nat.zero_le _, ?_⟩
        rw [SeqNumber.advanced_zero]
        exact continues

omit [CongestionControl κ] [RtoCalculator ρ] in
/-- What one application has written is what the other has read and can read, followed by
bytes that the writing end still holds; and data is no longer received only when the writer has
closed and nothing is missing. -/
theorem prefix_read (delivering : Delivering iss written read conversation) (side : Side) :
    let writer := (conversation side).connection.cb
    let reader := (conversation side.other).connection.cb
    ∃ missing, written side = read side.other ++ reader.receiver.recvQueue.flatten ++ missing ∧
      missing <:+ writer.sender.pending.flatten ∧
      (reader.state.receivesData = false → writer.userIsDoneSending = true ∧ missing = []) := by
  obtain ⟨acked, next, delivery⟩ := delivering side
  have received := delivery.streamed.received
  have position := delivery.streamed.position
  refine ⟨(written side).drop next, ?_, ?_, fun finished => ⟨?_, ?_⟩⟩
  · rw [received, List.take_append_drop]
  · rw [show (conversation side).connection.cb.sender.pending.flatten = (written side).drop acked from
      delivery.transmits.sending.data]
    refine ⟨((written side).drop acked).take (next - acked), ?_⟩
    conv_rhs => rw [← List.take_append_drop (next - acked) ((written side).drop acked)]
    rw [List.drop_drop, Nat.add_sub_cancel' delivery.behind]
  · by_contra active
    have receives := (delivery.unfinished (Bool.eq_false_iff.mpr active)).1
    rw [finished] at receives
    cases receives
  · rw [finished, if_neg Bool.false_ne_true] at position
    exact List.drop_eq_nil_of_le (by omega)

end Delivering

/-! ## Runs -/

/-- One step keeps both directions delivering. -/
theorem step_delivers {profile : Profile} {iss : Side → SeqNumber}
    {past : List (Transition κ ρ)} {source target : Conversation κ ρ} {action : ConversationAction}
    (delivering : Delivering iss (fun side => written profile side past)
      (fun side => read side past) source)
    (short : ∀ side, (written profile side past).length + 1 < 2 ^ 31) (kept : Kept source action)
    (advanced : step profile source action = .ok target) :
    Delivering iss (fun side => written profile side (⟨source, action, target⟩ :: past))
      (fun side => read side (⟨source, action, target⟩ :: past)) target := by
  cases action with
  | acts side own =>
    obtain ⟨connection, advanced', rest⟩ := bind_ok.mp advanced
    cases rest
    refine delivering.acts (fun side => Nat.lt_of_succ_lt (short side)) kept advanced' ?_ ?_
    all_goals
      intro side'
      by_cases same : side = side'
      · subst same
        simp only [written, writes, read, reads, if_true, advance, Function.update_self]
      · simp only [written, writes, read, reads, if_neg same]
  | arrives side env place =>
    simp only [written, writes, read, reads, List.append_nil]
    simp only [step] at advanced
    split at advanced
    · cases advanced
      exact delivering
    · rename_i segment found
      obtain ⟨connection, advanced', rest⟩ := bind_ok.mp advanced
      cases rest
      exact delivering.arrives short (List.mem_of_getElem? found) advanced'
  | migrates side application importer localAddr =>
    simp only [written, writes, read, reads, List.append_nil]
    obtain ⟨rebuilt, migrated, rest⟩ := bind_ok.mp advanced
    cases rest
    exact delivering.migrates kept.1 kept.2 migrated

/-- What has been written stays written. -/
theorem written_length_le (profile : Profile) (side : Side) (transition : Transition κ ρ)
    (past : List (Transition κ ρ)) :
    (written profile side past).length ≤ (written profile side (transition :: past)).length := by
  rw [written, List.length_append]
  exact Nat.le_add_right _ _

/-- Both directions deliver along every run. -/
theorem run_delivers {profile : Profile} {args : Side → NewConnection} (mirrored : Mirrored args)
    {past : List (Transition κ ρ)} {conversation : Conversation κ ρ}
    (run : Run profile (new args) past conversation) (kept : Runs.Meets Kept past)
    (short : ∀ side, (written profile side past).length + 1 < 2 ^ 31) :
    Delivering (fun side => (args side).senderSeqNo) (fun side => written profile side past)
      (fun side => read side past) conversation := by
  refine Runs.run_invariant (fun past conversation =>
    (∀ side, (written profile side past).length + 1 < 2 ^ 31) →
      Delivering (fun side => (args side).senderSeqNo) (fun side => written profile side past)
        (fun side => read side past) conversation) ?_ ?_ run kept short
  · intro _ side
    exact ⟨0, 0, fresh_delivery mirrored side (fun _ => rfl) (fun segment member => (by cases member))
      (fun segment member => (by cases member))⟩
  · intro past source action target _ kept delivers advanced short
    have before (side : Side) : (written profile side past).length + 1 < 2 ^ 31 :=
      Nat.lt_of_le_of_lt (Nat.succ_le_succ
        (written_length_le profile side ⟨source, action, target⟩ past)) (short side)
    exact step_delivers (delivers before) before kept advanced

/-- End-to-end delivery. Whatever the network loses, duplicates, delays and reorders, and
however often either end migrates while it is established and open: what one application has
written is what the other has read and can read, followed by bytes that the writing end
still holds for transmission. Data is no longer received only when the writer has closed and
nothing is missing.

Proof: `Delivering` is kept by every step of the conversation, in both directions: the
numbers of a side are positions in what it has written, what is in flight is a slice of
that, and what has been read is its beginning. The statement reads it for one side. -/
theorem delivered (profile : Profile) {args : Side → NewConnection} (mirrored : Mirrored args)
    {past : List (Transition κ ρ)} {conversation : Conversation κ ρ}
    (run : Run profile (new args) past conversation) (kept : Runs.Meets Kept past)
    (short : ∀ side, (written profile side past).length + 1 < 2 ^ 31) (side : Side) :
    let writer := (conversation side).connection.cb
    let reader := (conversation side.other).connection.cb
    ∃ missing, written profile side past =
        read side.other past ++ reader.receiver.recvQueue.flatten ++ missing ∧
      missing <:+ writer.sender.pending.flatten ∧
      (reader.state.receivesData = false → writer.userIsDoneSending = true ∧ missing = []) :=
  (run_delivers mirrored run kept short).prefix_read side

/-- Where an end goes on after a migration. -/
def migrated (endpoint : Endpoint κ ρ) (importer : Importer) (localAddr : SocketAddrV4) :
    Endpoint κ ρ :=
  ⟨⟨.fromState importer (endpoint.connection.cb.exported.untimed.setLocal localAddr), .top⟩,
    endpoint.sent⟩

/-- A connection that can be exported migrates, and the migrated one continues it. -/
theorem step_migrates (profile : Profile) {conversation : Conversation κ ρ} {side : Side}
    (application : Option ApplicationState) (importer : Importer) (localAddr : SocketAddrV4)
    (exportable : (conversation side).connection.cb.Exportable) :
    step profile conversation (.migrates side application importer localAddr) =
      .ok (Function.update conversation side (migrated (conversation side) importer localAddr)) := by
  rw [step, ControlBlock.migrate_ok.mpr ⟨exportable, rfl⟩]
  rfl

/-- Two sides that agree. -/
def sampleArgs : Side → NewConnection
  | .client => NewConnection.sample 1000 1000 536
  | .server => { NewConnection.sample 1000 1000 536 with
      localAddr := ⟨0x0a000002#32, 4321⟩
      remote := ⟨0x0a000001#32, 80⟩
      receiverSeqNo := SeqNumber.ofU32 1000
      senderSeqNo := SeqNumber.ofU32 100 }

/-- The two ends of the sample continue each other. -/
theorem mirrored_sample : Mirrored sampleArgs := by
  constructor <;> intro side <;> cases side <;> decide

/-- A conversation between the two ends. -/
def sample : Conversation NoCongestionControl IntegerRto := new sampleArgs

/-- The server migrates between two segments, and then the first comes once more. -/
theorem delivered_migrated :
    ∃ past conversation, Run .dev sample past conversation ∧ Runs.Meets Kept past ∧
      written .dev .client past = [1, 2, 3] ∧ read .server past = [1, 2] ∧
      (conversation .server).connection.cb.localAddr = ⟨0x0a000003#32, 4321⟩ ∧
      ∃ missing, [1, 2, 3] =
        [1, 2] ++ (conversation .server).connection.cb.receiver.recvQueue.flatten ++ missing := by
  -- The export travels as bytes, which are not evaluated here.
  have executed : ∃ past conversation, Runs.execute (step .dev) ([], sample)
      [.acts .client ⟨.send (Env.sample 0) [1, 2], rfl⟩, .arrives .server (Env.sample 1) 0] =
        .ok (past, conversation) ∧ (conversation .server).connection.cb.Exportable ∧
      let moved := Function.update conversation .server
        (migrated (conversation .server) Importer.sample ⟨0x0a000003#32, 4321⟩)
      ∃ past' conversation', Runs.execute (step .dev)
        (⟨conversation, .migrates .server none Importer.sample ⟨0x0a000003#32, 4321⟩, moved⟩ :: past,
          moved)
        [.acts .client ⟨.send (Env.sample 2) [3], rfl⟩, .arrives .server (Env.sample 3) 1,
          .arrives .server (Env.sample 4) 0, .acts .server ⟨.pollRecv 1, rfl⟩] =
            .ok (past', conversation') ∧ Runs.Meets Kept past' ∧
      written .dev .client past' = [1, 2, 3] ∧ written .dev .server past' = [] ∧
      read .server past' = [1, 2] ∧
      (conversation' .server).connection.cb.localAddr = ⟨0x0a000003#32, 4321⟩ := by
    refine ⟨_, _, rfl, ⟨by decide, ⟨by decide, by decide⟩, ⟨by decide, by decide⟩,
      ⟨by decide, by decide⟩, ⟨by decide, by decide⟩⟩, _, _, rfl, ?_, rfl, rfl, rfl, rfl⟩
    · refine (Runs.meets_cons _ _ _).mpr ⟨trivial, (Runs.meets_cons _ _ _).mpr ⟨trivial,
        (Runs.meets_cons _ _ _).mpr ⟨trivial, (Runs.meets_cons _ _ _).mpr ⟨List.cons_ne_nil _ _,
        (Runs.meets_cons _ _ _).mpr ⟨⟨rfl, rfl⟩, (Runs.meets_cons _ _ _).mpr ⟨trivial,
        (Runs.meets_cons _ _ _).mpr ⟨List.cons_ne_nil _ _, Runs.meets_nil _⟩⟩⟩⟩⟩⟩⟩
  obtain ⟨past, conversation, first, exportable, past', conversation', second, kept, written,
    silent, read, address⟩ := executed
  have moved := Runs.Run.step _ (Runs.run_of_execute .nil first)
    (step_migrates .dev none Importer.sample ⟨0x0a000003#32, 4321⟩ exportable)
  have run := Runs.run_of_execute moved second
  have short (side : Side) : (Conversation.written .dev side past').length + 1 < 2 ^ 31 := by
    cases side with
    | client => rw [written]; decide
    | server => rw [silent]; decide
  obtain ⟨missing, split, -, -⟩ := delivered .dev mirrored_sample run kept short .client
  refine ⟨past', conversation', run, kept, written, read, address, missing, ?_⟩
  rw [← written, split]
  exact congrArg (fun taken => taken ++ _ ++ missing) read

end Conversation

end Capybara
