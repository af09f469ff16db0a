import Capybara.Tcp.Established.SendStream
import Capybara.Tcp.Established.WindowAccounting

/-!
# The segments that stop the program

A panic or an endless loop in `receive` takes the whole process down. In a state
whose receive window and retransmission queue are accounted for, exactly four kinds
of segment do that; `Harmless` excludes them, one in each field.
-/

namespace Capybara

open OutOfOrder EndMarkers

variable {κ ρ : Type}

/-- No stored run reaches further than one that stops where nothing continues it. -/
theorem laid_le {start : SeqNumber} {front rest front' rest' : List (SeqNumber × Buffer)}
    (split : front ++ rest = front' ++ rest') (laid : Laid start front)
    (stops : ∀ entry ∈ rest'.head?, entry.1 ≠ start.advanced (storedLength front')) :
    storedLength front ≤ storedLength front' := by
  induction front' generalizing start front with
  | nil =>
    cases front with
    | nil => exact Nat.le_refl _
    | cons entry front =>
      rw [List.nil_append] at split
      have differs := stops entry (by rw [← split]; rfl)
      rw [storedLength_nil, SeqNumber.advanced_zero] at differs
      exact absurd laid.1 differs
  | cons entry' front' inductionHypothesis =>
    cases front with
    | nil => exact Nat.zero_le _
    | cons entry front =>
      obtain ⟨rfl, further⟩ := List.cons.inj split
      rw [storedLength_cons, storedLength_cons]
      refine Nat.add_le_add_left (inductionHypothesis further laid.2 fun later member => ?_) _
      rw [SeqNumber.advanced_advanced, ← storedLength_cons]
      exact stops later member

namespace Sender

/-- An update of the send window fails for impossible window scales only. -/
theorem updateSendWindow_of_scale (profile : Profile) {sender : Sender} (header : TcpHeader)
    (scale : sender.windowScale.toNat < 32) :
    ∃ sender', sender.updateSendWindow profile header = .ok sender' := by
  unfold updateSendWindow
  split
  · rw [shlU32, if_pos scale]
    exact ⟨_, rfl⟩
  · exact ⟨_, rfl⟩

end Sender

namespace ControlBlock

/-- None of the segments on which `receive` fails: at a closed window, a SYN or in one
profile an empty segment at `receive_next`; with nothing outstanding, the number half
the space ahead; in-order text with a FIN, continued by stored data up to the right
edge; and an in-order FIN in the closed state. -/
structure Harmless (profile : Profile) (cb : ControlBlock κ ρ) (header : TcpHeader)
    (data : Buffer) : Prop where
  window : ¬ cb.ClosedWindowFault profile header data
  ack : cb.ReachesAck header data → ¬ cb.sender.HalfSpaceAck header
  fin : cb.FinClear header data
  state : cb.ReachesText header data → (cb.textInWindow header data).offset = 0 →
    (cb.textInWindow header data).fin = true → cb.stateAfterAck header ≠ .closed

variable {profile : Profile} {env : Env} {cb cb' : ControlBlock κ ρ} {header : TcpHeader}
  {data : Buffer}

/-- One number too many, and the window field cannot be computed. -/
theorem Granted.hdrWindowSize_overrun (granted : cb.Granted) (profile : Profile)
    (overrun : cb.unread = cb.receiveBufferSize.toNat + 1) :
    ∃ fault, cb.hdrWindowSize profile = .error fault := by
  have small := granted.size_lt
  have scale := granted.scale
  have beyond : (cb.receiver.receiveNext - cb.receiver.readerNext).toU32 =
    cb.receiveBufferSize.toNat + 1 := overrun
  cases profile with
  | dev =>
    refine ⟨.receiveWindowUnderflow, ?_⟩
    rw [ControlBlock.hdrWindowSize, getReceiveWindowSize, beyond, subU32, if_neg (by omega)]
    rfl
  | release =>
    have wrapped : cb.getReceiveWindowSize .release = .ok (2 ^ 32 - 1) := by
      rw [getReceiveWindowSize, beyond, subU32, if_neg (by omega)]
      simp only [Profile.checks, Bool.false_eq_true, if_false, Except.mapError]
      congr 1
      omega
    have large : ¬ (2 ^ 32 - 1) >>> cb.windowScale.toNat < 2 ^ 16 := by
      rw [Nat.shiftRight_eq_div_pow, Nat.not_lt]
      calc 2 ^ 16 ≤ (2 ^ 32 - 1) / 2 ^ 14 := by decide
        _ ≤ (2 ^ 32 - 1) / 2 ^ cb.windowScale.toNat :=
          Nat.div_le_div_left (Nat.pow_le_pow_right (by decide) scale) (Nat.two_pow_pos _)
    refine ⟨.windowSizeOverflow, ?_⟩
    rw [ControlBlock.hdrWindowSize, wrapped]
    simp only [bind, Except.bind, shrU32, if_pos (show cb.windowScale.toNat < 32 by omega),
      if_neg large]

/-- A FIN at a closed window cannot be acknowledged. -/
theorem receiveFin_overrun (profile : Profile) (env : Env) (granted : cb.Granted)
    (settled : cb.Settled) (full : cb.window = 0) :
    ∃ fault, cb.receiveFin profile env = .error fault := by
  have small := granted.size_lt
  obtain ⟨fits, -⟩ := settled
  unfold receiveFin
  dsimp only
  split
  · exact ⟨_, rfl⟩
  · rename_i state next
    let after : ControlBlock κ ρ := { cb.disableStats with
      receiver := { cb.receiver with receiveNext := cb.receiver.receiveNext + SeqNumber.ofU32 1 }
      state }
    have overrun : after.unread = after.receiveBufferSize.toNat + 1 := by
      unfold window at full
      have total : after.unread = cb.unread + 1 := by
        unfold unread at fits
        exact SeqNumber.ahead_to_advanced
          (show cb.receiver.readerNext.ahead cb.receiver.receiveNext + 1 < 2 ^ 32 by omega)
      change after.unread = cb.receiveBufferSize.toNat + 1
      omega
    have granted' : after.Granted := granted.of_eq rfl rfl
    obtain ⟨fault, fails⟩ := granted'.hdrWindowSize_overrun profile overrun
    refine ⟨fault, ?_⟩
    change after.sendAck profile env = _
    rw [sendAck, tcpHeader, fails]
    rfl

variable [CongestionControl κ] [RtoCalculator ρ]

/-- Where `receive` returns, the acceptability test has. -/
theorem window_of_receive (settled : cb.Settled) (short : sequenceLength header data ≤ 2 ^ 31)
    (received : cb.receive profile env header data = .ok cb') :
    ¬ cb.ClosedWindowFault profile header data := by
  intro failing
  obtain ⟨fault, -, trims⟩ := trimToWindow_fault profile settled short failing
  rw [receive, trims] at received
  cases received

/-- A segment that reaches its text and is received has its text received in the state
that the ACK section leaves. -/
theorem receiveText_of_receive (settled : cb.Settled) (short : sequenceLength header data ≤ 2 ^ 31)
    (window : ¬ cb.ClosedWindowFault profile header data) (reaches : cb.ReachesText header data)
    (received : cb.receive profile env header data = .ok cb') :
    ∃ (acked : ControlBlock κ ρ) (segment : Accepted),
      acked.view = { cb.view with sender := acked.sender, state := cb.stateAfterAck header } ∧
      segment.segStart = cb.receiver.receiveNext.advanced (cb.textInWindow header data).offset ∧
      segment.data = (cb.textInWindow header data).bytes ∧
      segment.header.fin = (cb.textInWindow header data).fin ∧
      acked.receiveText profile env (cb.textInWindow header data) segment = .ok cb' := by
  obtain ⟨segment, inside, -, bytes, fin, equation⟩ :=
    receive_reaches profile env settled short window reaches.1
  rw [equation] at received
  obtain ⟨⟨acked, proceed⟩, processed, received⟩ := bind_ok.mp received
  obtain ⟨rfl, -, seen⟩ := processAck_ok processed
  rw [reaches.2] at received
  exact ⟨acked, segment, seen, inside.start, bytes, fin, received⟩

/-- Where `receive` returns, no FIN has been counted past the right edge. -/
theorem finClear_of_receive (granted : cb.Granted) (settled : cb.Settled)
    (short : sequenceLength header data ≤ 2 ^ 31)
    (edge : cb.EdgeClear) (received : cb.receive profile env header data = .ok cb') :
    cb.FinClear header data := by
  intro reaches receives inOrder some fin front rest split laid atEdge
  have window := window_of_receive settled short received
  obtain ⟨acked, segment, seen, starts, bytes, own, received⟩ :=
    receiveText_of_receive settled short window reaches received
  have same : acked.reception = cb.reception := congrArg View.reception seen
  have starts' : segment.segStart = acked.receiver.receiveNext := by
    rw [starts, inOrder, SeqNumber.advanced_zero, receiver_eq same]
  have receives' : acked.state.receivesData = true := by
    rw [show acked.state = cb.stateAfterAck header from congrArg View.state seen,
      stateAfterAck_receivesData]
    exact receives
  obtain ⟨joined, front', rest', taken, equation, joins, after⟩ :=
    receiveInOrder_text profile env starts' (by rw [bytes]; exact some) receives'
  rw [same, bytes, own, fin] at joins
  have finTaken : taken = true := by rw [joins.fin]; rfl
  rw [receiveText, if_pos inOrder, equation, finTaken, if_pos rfl] at received
  -- The run that was joined reaches as far as the one that ends at the edge.
  have split' : cb.outOfOrder = front' ++ rest' := joins.store
  have least := laid_le (split.symm.trans split') laid fun entry member => by
    rw [SeqNumber.advanced_advanced]
    exact joins.stops entry member
  have most := laid_within settled.window_lt (fun entry member => edge.1 entry (by
    rw [split']
    exact List.mem_append_left _ member))
    (show (cb.textInWindow header data).bytes.length ≤ cb.window by omega) joins.laid
  have reception : joined.reception =
      cb.reception.joined (cb.textInWindow header data).bytes front' rest' false := by
    rw [← same, ← bytes]
    exact congrArg View.reception after
  have size : joined.receiveBufferSize = cb.receiveBufferSize :=
    congrArg Reception.receiveBufferSize reception
  have granted' : joined.Granted := granted.of_eq size (congrArg Reception.windowScale reception)
  obtain ⟨total, held⟩ := unread_advanced joined
    ((cb.textInWindow header data).bytes.length + storedLength front') settled most
    (congrArg (fun after => after.receiver.readerNext) reception)
    (congrArg (fun after => after.receiver.receiveNext) reception) size
  have full : joined.window = 0 := by
    unfold ControlBlock.window at atEdge ⊢
    rw [size] at held ⊢
    omega
  obtain ⟨fault, fails⟩ := receiveFin_overrun profile env granted' (granted'.settled held) full
  cases fails.symm.trans received

section Accounts

variable {iss : SeqNumber} {stream : Buffer} {acked : Nat} {done : Bool}
  (sending : Sending iss stream acked cb.sender done) (small : cb.sender.held + 1 < 2 ^ 32)
include sending small

/-- The ACK section returns on every other number than the one half the space ahead
of nothing outstanding. -/
theorem processAck_returns (profile : Profile) (env : Env)
    (scale : cb.sender.windowScale.toNat < 32)
    (apart : ¬ cb.sender.HalfSpaceAck header) :
    ∃ result, cb.processAck profile env header = .ok result := by
  unfold processAck
  dsimp only
  split
  · rename_i ahead
    split
    · rename_i sent
      have new : cb.sender.acksNew header = true := by simp [Sender.acksNew, ahead, sent]
      have within := (Sender.acksNew_within new).resolve_right apart
      rw [sending.outstanding_eq small] at within
      obtain ⟨queue, rto, removed, -⟩ := Sender.removeAcknowledged_ok profile env.now
        cb.sender.unackedQueue cb.sender.unsentQueue _ cb.rtoCalculator sending.ordered within
      rw [SeqNumber.toU32_sub, removed]
      simp only [bind, Except.bind]
      let acknowledged : Sender := { cb.sender with
        unackedQueue := queue
        sendUnacked := cb.sender.sendUnacked.set header.ackNum }
      have shift : acknowledged.windowScale.toNat < 32 := scale
      obtain ⟨sender, updated⟩ := Sender.updateSendWindow_of_scale profile header shift
      rw [updated]
      dsimp only
      split <;> exact ⟨_, rfl⟩
    · exact ⟨_, rfl⟩
  · exact ⟨_, rfl⟩

/-- The ACK section does not return on that one. -/
theorem processAck_apart {result : ControlBlock κ ρ × Bool}
    (processed : cb.processAck profile env header = .ok result) :
    ¬ cb.sender.HalfSpaceAck header := by
  intro corner
  have new : cb.sender.acksNew header = true :=
    (Sender.acksNew_iff _ header (by rw [corner.1]; decide)).mpr (.inr corner)
  obtain ⟨-, after, -⟩ := processAck_ok processed
  rw [SenderAfterAck, if_pos new] at after
  obtain ⟨rto, removed, -⟩ := after.sender
  exact sending.halfSpace_stuck profile env.now cb.rtoCalculator small corner _ removed

/-- Where `receive` returns, the segment is harmless. -/
theorem harmless_of_receive (granted : cb.Granted) (settled : cb.Settled)
    (short : sequenceLength header data ≤ 2 ^ 31) (edge : cb.EdgeClear)
    (received : cb.receive profile env header data = .ok cb') :
    cb.Harmless profile header data := by
  have window := window_of_receive settled short received
  refine ⟨window, fun reaches => ?_, ?_, fun reaches inOrder fin closed => ?_⟩
  · obtain ⟨segment, -, -, -, -, equation⟩ :=
      receive_reaches profile env settled short window reaches
    rw [equation] at received
    obtain ⟨result, processed, -⟩ := bind_ok.mp received
    exact processAck_apart sending small processed
  · exact finClear_of_receive granted settled short edge received
  · obtain ⟨acked, segment, seen, -, -, own, received⟩ :=
      receiveText_of_receive settled short window reaches received
    have state : acked.state = .closed := (congrArg View.state seen).trans closed
    rw [receiveText, if_pos inOrder, receiveInOrder_no_text profile env (.inr (by rw [state]; rfl)),
      own, fin, if_pos rfl, receiveFin, state] at received
    cases received

/-- On a harmless segment `receive` returns. -/
theorem receive_of_harmless (granted : cb.Granted) (settled : cb.Settled)
    (short : sequenceLength header data ≤ 2 ^ 31)
    (stored : AllParts (fun _ _ => True) cb.outOfOrder) (edge : cb.EdgeClear)
    (scale : cb.sender.windowScale.toNat < 32) (harmless : cb.Harmless profile header data) :
    ∃ cb', cb.receive profile env header data = .ok cb' := by
  cases result : cb.receive profile env header data with
  | ok cb' => exact ⟨cb', rfl⟩
  | error fault =>
    exfalso
    obtain ⟨failing, -⟩ | ⟨reaches, fails⟩ | ⟨reaches, -, inOrder, fin, closed⟩ :=
      receive_fault granted settled short stored (fun reaches inOrder some receives =>
        joinFits_of_clear settled edge harmless.fin reaches receives inOrder some) result
    · exact harmless.window failing
    · obtain ⟨result, processed⟩ :=
        processAck_returns sending small profile env scale (harmless.ack reaches)
      cases processed.symm.trans fails
    · exact harmless.state reaches inOrder fin closed

end Accounts

end ControlBlock

namespace Connection

/-- An arriving segment takes up at most half the sequence space; an IPv4 packet is far
smaller. -/
def ShortSegment (_ : Connection κ ρ) : Action → Prop
  | .receive _ header data => sequenceLength header data ≤ 2 ^ 31
  | _ => True

instance (c : Connection κ ρ) (action : Action) : Decidable (c.ShortSegment action) :=
  match action with
  | .receive _ _ _ => inferInstanceAs (Decidable (_ ≤ _))
  | .pollRecv _ | .send _ _ | .close _ | .senderRound _ _ | .retransmitterRound _
  | .acknowledgerRound _ => inferInstanceAs (Decidable True)

variable [CongestionControl κ] [RtoCalculator ρ] {profile : Profile}

/-- The window scale of the peer is never changed. -/
theorem step_scale {source target : Connection κ ρ} {action : Action}
    (advanced : source.step profile action = .ok target) :
    target.cb.sender.windowScale = source.cb.sender.windowScale := by
  cases action with
  | receive env header data =>
    obtain ⟨cb, received, advanced⟩ := bind_ok.mp advanced
    cases advanced
    obtain ⟨-, -, ⟨-, after⟩ | ⟨-, same⟩⟩ := ControlBlock.receive_acks received
    · unfold ControlBlock.SenderAfterAck at after
      split at after
      · obtain ⟨-, -, -, -, -, -, -, scale⟩ := after.sender
        exact scale
      · rw [after]
    · rw [same]
  | pollRecv waker =>
    cases advanced
    simp only [ControlBlock.pollRecv]
    split <;> rfl
  | send | close | senderRound | retransmitterRound | acknowledgerRound =>
    exact (step_undisturbed rfl advanced).scale

/-- The scale of the peer stays what it was when the connection was opened. -/
theorem run_scale {args : NewConnection} {past : List (Transition κ ρ)} {state : Connection κ ρ}
    (run : Run profile (Connection.new args) past state) :
    state.cb.sender.windowScale = args.senderWindowScale := by
  induction run with
  | nil => rfl
  | step action earlier advanced inductionHypothesis =>
    exact (step_scale advanced).trans inductionHypothesis

/-- A successful step has counted no FIN past the right edge. -/
theorem step_finCounted {base : SeqNumber} {received popped : Nat} {source target : Connection κ ρ}
    {action : Action} (accounted : Accounted base received popped source.cb)
    (short : ShortSegment source action) (clear : EdgeCounted source action)
    (advanced : source.step profile action = .ok target) : FinCounted source action := by
  cases action with
  | receive env header data =>
    obtain ⟨cb, received, -⟩ := bind_ok.mp advanced
    exact ⟨short, ControlBlock.finClear_of_receive accounted.granted accounted.settled short clear
      received⟩
  | pollRecv | send | close | senderRound | retransmitterRound | acknowledgerRound => trivial

/-- A run of successful steps has counted no FIN past the right edge. -/
theorem run_finCounted {args : NewConnection} (scale : args.receiverWindowScale.toNat ≤ 14)
    (size : ∃ window < 2 ^ 16,
      args.receiverWindowSize.toNat = window <<< args.receiverWindowScale.toNat)
    {past : List (Transition κ ρ)} {state : Connection κ ρ}
    (run : Run profile (Connection.new args) past state) (short : Runs.Meets ShortSegment past)
    (edge : received past + args.receiverWindowSize.toNat < 2 ^ 32 ∨ Runs.Meets EdgeCounted past) :
    Runs.Meets FinCounted past := by
  refine Runs.run_invariant (fun past (_ : Connection κ ρ) =>
    (received past + args.receiverWindowSize.toNat < 2 ^ 32 ∨ Runs.Meets EdgeCounted past) →
      Runs.Meets FinCounted past) (fun _ => Runs.meets_nil _) ?_ run short edge
  intro past source action target earlier short counted advanced edge
  have before := counted (edge_before edge)
  obtain ⟨same, accounted, -⟩ := accounted scale size earlier before (edge_before edge)
  have clear : EdgeCounted source action := accounted.edgeCounted (by rw [same]; exact edge)
  exact (Runs.meets_cons _ _ _).mpr ⟨step_finCounted accounted short clear advanced, before⟩

/-- On an accounted connection `receive` returns on exactly the harmless segments. -/
theorem receive_accounted {base iss : SeqNumber} {received popped acked : Nat} {stream : Buffer}
    {state : Connection κ ρ} (accounted : Accounted base received popped state.cb)
    (transmits : Transmits iss stream acked state.cb.view state.task)
    (clear : state.cb.EdgeClear) (scale : state.cb.sender.windowScale.toNat < 32)
    (small : state.cb.sender.held + 1 < 2 ^ 32) {env : Env} {header : TcpHeader} {data : Buffer}
    (arrives : sequenceLength header data ≤ 2 ^ 31) :
    (∃ cb, state.cb.receive profile env header data = .ok cb) ↔
      state.cb.Harmless profile header data := by
  have stored : AllParts (fun _ _ => True) state.cb.outOfOrder := fun entry member =>
    ⟨(accounted.stored entry member).1, (accounted.stored entry member).2.1, trivial⟩
  constructor
  · rintro ⟨cb, received⟩
    exact ControlBlock.harmless_of_receive transmits.sending small accounted.granted
      accounted.settled arrives clear received
  · intro harmless
    exact ControlBlock.receive_of_harmless transmits.sending small accounted.granted
      accounted.settled arrives stored clear scale harmless

/-- No remote crash. In every state reached by a run that keeps the stream, with the
right edge kept clear of leftovers after a whole turn of the sequence space,
`receive` returns on exactly the harmless segments.

Proof: the two invariants of the run, `Accounted` for the receiving side and `Transmits`
for the sending side, bound everything that the branches of `receive` subtract, index
and assert. From them each fault is the failure of one clause of `Harmless`, and each
clause excludes the faults of its branch. -/
theorem receive_returns_iff (profile : Profile) (args : NewConnection)
    (scale : args.receiverWindowScale.toNat ≤ 14)
    (size : ∃ window < 2 ^ 16,
      args.receiverWindowSize.toNat = window <<< args.receiverWindowScale.toNat)
    (senderScale : args.senderWindowScale.toNat < 32) (mss : 1 ≤ args.senderMss)
    {past : List (Transition κ ρ)} {state : Connection κ ρ}
    (run : Run profile (Connection.new args) past state) (short : Runs.Meets ShortSegment past)
    (kept : Runs.Meets StreamKept past) (small : state.cb.sender.held + 1 < 2 ^ 32)
    (edge : received past + args.receiverWindowSize.toNat < 2 ^ 32 ∨
      Runs.Meets EdgeCounted past ∧ state.cb.EdgeClear)
    (env : Env) (header : TcpHeader) (data : Buffer)
    (arrives : sequenceLength header data ≤ 2 ^ 31) :
    (∃ cb, state.cb.receive profile env header data = .ok cb) ↔
      state.cb.Harmless profile header data := by
  have edges : received past + args.receiverWindowSize.toNat < 2 ^ 32 ∨
      Runs.Meets EdgeCounted past := edge.imp_right And.left
  have fin := run_finCounted scale size run short edges
  obtain ⟨same, accounted, -⟩ := accounted scale size run fin edges
  have clear : state.cb.EdgeClear := by
    rcases edge with turn | ⟨-, clear⟩
    · exact accounted.edgeClear (by rw [same]; exact turn)
    · exact clear
  exact receive_accounted accounted (run_transmits mss run kept) clear
    (by rw [run_scale run]; exact senderScale) small arrives

/-- The peer's second and last byte, with an acknowledgement of two bytes. -/
def lastByte : TcpHeader := { TcpHeader.new 4321 80 with
  seqNum := SeqNumber.ofU32 101, ackNum := SeqNumber.ofU32 1002, ack := true, fin := true }

/-- After three bytes sent and one received, the peer's last byte and its FIN are
harmless. -/
theorem receive_returns_exchange :
    ∃ past state, Run .dev (Connection.sample 1000 1000 536) past state ∧
      Runs.Meets ShortSegment past ∧ Runs.Meets StreamKept past ∧
      state.cb.Harmless .dev lastByte [8] ∧
      ∃ cb, state.cb.receive .dev (Env.sample 0) lastByte [8] = .ok cb := by
  have executed : ∃ past state, execute .dev (Connection.sample 1000 1000 536)
      [.send (Env.sample 0) [1, 2, 3], .segment 100 1000 [7] false] = .ok (past, state) ∧
      Runs.Meets ShortSegment past ∧ Runs.Meets StreamKept past ∧ received past = 1 ∧
      state.cb.sender.held = 3 ∧ state.cb.outOfOrder = [] ∧ state.cb.window = 999 ∧
      (state.cb.textInWindow lastByte [8]).bytes.length = 1 ∧
      ¬ state.cb.ClosedWindowFault .dev lastByte [8] ∧ ¬ state.cb.sender.HalfSpaceAck lastByte ∧
      state.cb.stateAfterAck lastByte = .established := by
    refine ⟨_, _, rfl, by decide, by decide, by decide, by decide, rfl, by decide, by decide,
      by decide, by decide, by decide⟩
  obtain ⟨past, state, executed, short, kept, total, held, store, window, length, sound, apart,
    established⟩ := executed
  have run := run_of_execute executed
  have harmless : state.cb.Harmless .dev lastByte [8] := by
    refine ⟨sound, fun _ => apart, ?_, fun _ _ _ => by rw [established]; decide⟩
    intro reaches receives inOrder some fin front rest split laid
    rw [store] at split
    rw [(List.append_eq_nil_iff.mp split.symm).1, length, window]
    decide
  refine ⟨past, state, run, short, kept, harmless, ?_⟩
  exact (receive_returns_iff .dev (NewConnection.sample 1000 1000 536) (by decide)
    ⟨1000, by decide, rfl⟩ (by decide) (by decide) run short kept (by rw [held]; decide)
    (.inl (by rw [total]; decide)) (Env.sample 0) lastByte [8] (by decide)).mpr harmless

/-- Segments that stop the program: a SYN at a window that three received bytes have
closed, a FIN after a RST, the acknowledgement of half the space with nothing
outstanding, and, with assertions, an empty segment at a closed window. -/
theorem receive_stopped :
    (∃ past state, execute .release (Connection.sample 3 1000 536)
        [.segment 100 1000 [1, 2, 3] false] = .ok (past, state) ∧
      state.step .release (.receive (Env.sample 0) { TcpHeader.new 4321 80 with
        seqNum := SeqNumber.ofU32 103, syn := true } []) = .error .trimPastBeginning) ∧
    (∃ past state, execute .release (Connection.sample 1000 1000 536)
        [.receive (Env.sample 0) { TcpHeader.new 4321 80 with
          seqNum := SeqNumber.ofU32 100, rst := true } []] = .ok (past, state) ∧
      state.step .release (.segment 100 1000 [] true) = .error .badTcpState) ∧
    (Connection.sample 1000 1000 536).step .release (.segment 100 2147484648 [] false) =
      .error .neverReturns ∧
    ∃ past state, execute .dev (Connection.sample 3 1000 536)
        [.segment 100 1000 [1, 2, 3] false] = .ok (past, state) ∧
      state.step .dev (.segment 103 1000 [] false) = .error .segmentOutsideWindow :=
  ⟨⟨_, _, rfl, rfl⟩, ⟨_, _, rfl, rfl⟩, rfl, ⟨_, _, rfl, rfl⟩⟩

end Connection

end Capybara
