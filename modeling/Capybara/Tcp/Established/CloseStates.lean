import Capybara.Tcp.Established.FinNumbers

/-!
# The states of closing

The state of a connection changes in three places: when a FIN is emitted, when
everything sent has been acknowledged, and when a FIN of the peer is taken. One
arriving segment may do the last two. Every change is an edge of the diagram of
RFC 793; an RST or a SYN in the window closes the connection.

What a state means is kept with the history of the run: that a FIN has left, that
`send_unacked` has moved over its number, that `receive_next` has moved over the number
of a FIN that the peer has sent.
-/

namespace Capybara

variable {κ ρ : Type}

/-- The diagram of RFC 793 between the states of an established connection. -/
inductive State.Edge : State → State → Prop where
  | sendFin : Edge .established .finWait1
  | receiveFin : Edge .established .closeWait
  | finAcked : Edge .finWait1 .finWait2
  | bothFins : Edge .finWait1 .closing
  | secondFin : Edge .finWait2 .timeWait
  | closingAcked : Edge .closing .timeWait
  | sendLastFin : Edge .closeWait .lastAck
  | lastFinAcked : Edge .lastAck .closed
  | expired : Edge .timeWait .closed

/-- At most two edges: one for an acknowledgement and one for a FIN of the peer. -/
def State.Moves (source target : State) : Prop :=
  target = source ∨ Edge source target ∨ ∃ between, Edge source between ∧ Edge between target

/-- The states that only a sent FIN leads to. -/
def State.sentFin : State → Bool
  | .finWait1 | .finWait2 | .closing | .timeWait | .lastAck | .closed => true
  | .established | .closeWait => false

/-- The states in which our FIN is acknowledged. -/
def State.finAcknowledged : State → Bool
  | .finWait2 | .timeWait | .closed => true
  | _ => false

/-- The states that only a FIN of the peer leads to. -/
def State.peerFinished : State → Bool
  | .closeWait | .lastAck | .closing | .timeWait => true
  | _ => false

/-- What a state says about our FIN and the peer's. -/
structure State.Means (state : State) (sent acknowledged taken : Prop) : Prop where
  sent : state.sentFin = true → sent
  acknowledged : state.finAcknowledged = true → acknowledged
  taken : state.peerFinished = true → taken

namespace State.Means

open ControlBlock

variable {state state' : State} {sent acknowledged taken sent' acknowledged' taken' : Prop}

/-- What a state means stays true when more has happened. -/
theorem mono (means : state.Means sent acknowledged taken) (further : sent → sent')
    (further' : acknowledged → acknowledged') (further'' : taken → taken') :
    state.Means sent' acknowledged' taken' :=
  ⟨fun now => further (means.sent now), fun now => further' (means.acknowledged now),
    fun now => further'' (means.taken now)⟩

/-- A FIN leaves. -/
theorem finSent (means : state.Means sent acknowledged taken) (leaves : sent') :
    (stateAfterFinSent state).Means sent' acknowledged taken := by
  refine ⟨fun _ => leaves, fun now => means.acknowledged ?_, fun now => means.taken ?_⟩
  · cases state <;> first | rfl | cases now
  · cases state <;> first | rfl | cases now

/-- Everything sent is acknowledged. -/
theorem allAcked (means : state.Means sent acknowledged taken) (acks : sent → acknowledged') :
    (stateAfterAllAcked state).Means sent acknowledged' taken := by
  refine ⟨fun now => means.sent ?_, fun now => acks (means.sent ?_), fun now => means.taken ?_⟩
  · cases state <;> first | rfl | cases now
  · cases state <;> first | rfl | cases now
  · cases state <;> first | rfl | cases now

/-- A FIN of the peer is taken. -/
theorem finTaken (means : state.Means sent acknowledged taken)
    (next : stateAfterFin state = some state') (takes : taken') :
    state'.Means sent acknowledged taken' := by
  refine ⟨fun now => means.sent ?_, fun now => means.acknowledged ?_, fun _ => takes⟩
  · cases state <;> cases next <;> first | rfl | cases now
  · cases state <;> cases next <;> first | rfl | cases now

end State.Means

namespace State

open ControlBlock

/-- No change or one edge. -/
def Follows (source target : State) : Prop := target = source ∨ Edge source target

/-- The state after our FIN has been sent follows. -/
theorem follows_finSent (state : State) : state.Follows (stateAfterFinSent state) := by
  cases state with
  | established => exact .inr .sendFin
  | closeWait => exact .inr .sendLastFin
  | finWait1 | finWait2 | closing | timeWait | lastAck | closed => exact .inl rfl

/-- The state after everything has been acknowledged follows. -/
theorem follows_allAcked (state : State) : state.Follows (stateAfterAllAcked state) := by
  cases state with
  | finWait1 => exact .inr .finAcked
  | closing => exact .inr .closingAcked
  | lastAck => exact .inr .lastFinAcked
  | established | finWait2 | timeWait | closeWait | closed => exact .inl rfl

/-- The state after the FIN of the peer has been taken follows. -/
theorem follows_finTaken {state state' : State} (next : stateAfterFin state = some state') :
    state.Follows state' := by
  cases state with
  | established => cases next; exact .inr .receiveFin
  | finWait1 => cases next; exact .inr .bothFins
  | finWait2 => cases next; exact .inr .secondFin
  | closeWait | closing | lastAck | timeWait => cases next; exact .inl rfl
  | closed => cases next

/-- An edge after an edge. -/
theorem Follows.moves {source between target : State} (first : source.Follows between)
    (second : between.Follows target) : source.Moves target := by
  rcases first with rfl | first
  · rcases second with rfl | second
    · exact .inl rfl
    · exact .inr (.inl second)
  · rcases second with rfl | second
    · exact .inr (.inl first)
    · exact .inr (.inr ⟨between, first, second⟩)

end State

namespace ControlBlock

variable {profile : Profile} {env : Env} {cb cb' : ControlBlock κ ρ} {header : TcpHeader}
  {data : Buffer} {segment : Accepted}

/-- An RST or a SYN lies in the window. -/
def Resets (profile : Profile) (cb : ControlBlock κ ρ) (header : TcpHeader) (data : Buffer) : Prop :=
  ∃ segment, cb.trimToWindow profile header data = .ok (some segment) ∧
    (segment.header.rst = true ∨ segment.header.syn = true)

/-- An acknowledgement changes neither the state nor the receiver. -/
theorem sendAck_state (sent : cb.sendAck profile env = .ok cb') :
    cb'.state = cb.state ∧ cb'.receiver = cb.receiver := by
  obtain ⟨-, acks, -, seen⟩ := sendAck_ok sent
  exact ⟨congrArg View.state seen, congrArg (fun view => view.reception.receiver) seen⟩

/-- A segment that is not the next one does not change the state. -/
theorem receiveOutOfOrder_state (received : cb.receiveOutOfOrder profile env segment = .ok cb') :
    cb'.state = cb.state := by
  obtain rfl | ⟨store, fin, sent⟩ := receiveOutOfOrder_frame received
  · rfl
  · exact (sendAck_state sent).1

variable [CongestionControl κ] [RtoCalculator ρ]

/-- The FIN with the given number is remembered, or it is that of the segment. -/
def KnowsFin (cb : ControlBlock κ ρ) (header : TcpHeader) (data : Buffer) (number : SeqNumber) : Prop :=
  (header.fin = true ∧ number = finNumber header data) ∨ cb.outOfOrderFin = some number

/-- The inversion of `receive` for the state: it closes at an RST or a SYN, and else
goes by the acknowledgement and then by the FIN. -/
theorem receive_states (received : cb.receive profile env header data = .ok cb') :
    (cb.Resets profile header data ∧ cb'.state = .closed) ∨
    (¬ cb.Resets profile header data ∧ (cb'.state = cb.state ∨
      (cb.ProcessesAck profile header data ∧ (cb'.state = cb.stateAfterAck header ∨
        (stateAfterFin (cb.stateAfterAck header) = some cb'.state ∧ ∃ number,
          cb.receiver.TakesFin cb'.receiver number ∧ cb.KnowsFin header data number))))) := by
  have refusal (refused : cb.trimToWindow profile header data = .ok none) :
      ¬ cb.Resets profile header data := by
    rintro ⟨segment, same, -⟩
    cases refused.symm.trans same
  have passage {segment : Accepted} (quiet : header.rst = false)
      (trims : cb.trimToWindow profile header data = .ok (some segment))
      (plain : segment.header.syn = false) : ¬ cb.Resets profile header data := by
    rintro ⟨other, same, flag⟩
    cases trims.symm.trans same
    rw [trimToWindow_header trims, quiet, plain] at flag
    exact flag.elim Bool.noConfusion Bool.noConfusion
  cases receive_passes received with
  | dropped refused => exact .inr ⟨refusal refused, .inl rfl⟩
  | answered refused sent => exact .inr ⟨refusal refused, .inl (sendAck_state sent).1⟩
  | reset trims rst =>
    refine .inl ⟨⟨_, trims, .inl (by rw [trimToWindow_header trims]; exact rst)⟩, ?_⟩
    unfold receiveRst
    split
    · assumption
    · rfl
  | syn trims syn => exact .inl ⟨⟨_, trims, .inr syn⟩, rfl⟩
  | silent trims quiet plain => exact .inr ⟨passage quiet trims plain, .inl rfl⟩
  | @acknowledged segment acked _ proceed trims quiet plain acks processed further =>
    obtain ⟨-, -, seen⟩ := processAck_ok processed
    have state : acked.state = cb.stateAfterAck header := congrArg View.state seen
    have reception : acked.reception = cb.reception := congrArg View.reception seen
    refine .inr ⟨passage quiet trims plain, .inr ⟨⟨segment, trims, quiet, plain, acks⟩, ?_⟩⟩
    rw [← state, ← receiver_eq reception]
    obtain sent | stored | ⟨starts, inOrder⟩ := further
    · exact .inl (sendAck_state sent).1
    · exact .inl (receiveOutOfOrder_state stored)
    · have number (fin : segment.header.fin = true) := trimToWindow_finNumber trims fin
      obtain ⟨-, same | ⟨next, taken, takes, which⟩⟩ :=
        receiveInOrder_finNumber starts (fun fin => (number fin).2.1 plain) inOrder
      · exact .inl same
      · refine .inr ⟨next, taken, takes, ?_⟩
        rw [KnowsFin, ← outOfOrderFin_eq reception]
        exact which.imp_left fun ⟨fin, own⟩ => ⟨(number fin).1, own⟩

/-- A FIN is remembered only from a segment that carries it. -/
theorem receive_remembers (received : cb.receive profile env header data = .ok cb') :
    cb'.outOfOrderFin = cb.outOfOrderFin ∨
      (header.fin = true ∧ cb'.outOfOrderFin = some (finNumber header data)) := by
  have quiet {before after : ControlBlock κ ρ} (sent : before.sendAck profile env = .ok after) :
      after.outOfOrderFin = before.outOfOrderFin := by
    obtain ⟨-, _, -, seen⟩ := sendAck_ok sent
    exact outOfOrderFin_eq (congrArg View.reception seen)
  cases receive_passes received with
  | dropped | silent | syn => exact .inl rfl
  | answered refused sent => exact .inl (quiet sent)
  | reset =>
    left
    unfold receiveRst
    split <;> rfl
  | @acknowledged segment acked _ proceed trims _ plain acks processed further =>
    obtain ⟨-, -, seen⟩ := processAck_ok processed
    rw [← outOfOrderFin_eq (congrArg View.reception seen)]
    obtain sent | stored | ⟨starts, inOrder⟩ := further
    · exact .inl (quiet sent)
    · exact (receiveOutOfOrder_finNumber trims stored).2
    · exact .inl (receiveInOrder_finNumber starts
        (fun fin => (trimToWindow_finNumber trims fin).2.1 plain) inOrder).1

end ControlBlock

variable [CongestionControl κ] [RtoCalculator ρ] {profile : Profile}

namespace Connection

/-- A FIN of ours has been transmitted. -/
def FinSent (c : Connection κ ρ) : Prop := ∃ segment ∈ c.cb.transmitted, segment.tcpHdr.fin = true

/-- An acknowledgement has moved `send_unacked` past our FIN: to the number that follows the
FIN's own and those of everything sent for the first time between the FIN and the
acknowledgement, which is the number right behind the FIN where nothing was. -/
def FinPassed (past : List (Transition κ ρ)) : Prop :=
  ∃ later acking between leaving earlier segment,
    past = later ++ acking :: (between ++ leaving :: earlier) ∧ SendsFin leaving segment ∧
    acking.target.cb.sender.sendUnacked.value ≠ acking.source.cb.sender.sendUnacked.value ∧
    acking.target.cb.sender.sendUnacked.value =
      segment.tcpHdr.seqNum.advanced (1 + allNewNumbers between)

/-- A segment with the FIN flag has arrived from the peer, and `receive_next` has moved over
the number of its FIN. -/
def PeerFinTaken (past : List (Transition κ ρ)) : Prop :=
  ∃ later taking earlier number, past = later ++ taking :: earlier ∧
    FinHeard (taking :: earlier) number ∧
    taking.source.cb.receiver.TakesFin taking.target.cb.receiver number

/-- The step is the arrival of an RST or a SYN in the window. -/
def Reset (profile : Profile) (c : Connection κ ρ) : Action → Prop
  | .receive _ header data => c.cb.Resets profile header data
  | _ => False

omit [CongestionControl κ] [RtoCalculator ρ] in
/-- A read neither changes the state nor sends anything. -/
theorem pollRecv_state (waker : Waker) (cb : ControlBlock κ ρ) :
    (cb.pollRecv waker).1.state = cb.state ∧ (cb.pollRecv waker).1.transmitted = cb.transmitted := by
  simp only [ControlBlock.pollRecv]
  split <;> exact ⟨rfl, rfl⟩

/-- One step moves along the diagram or is reset. -/
theorem step_moves {source target : Connection κ ρ} {action : Action}
    (advanced : source.step profile action = .ok target) :
    (source.Reset profile action ∧ target.cb.state = .closed) ∨
      source.cb.state.Moves target.cb.state := by
  cases action with
  | receive env header data =>
    obtain ⟨cb, received, advanced⟩ := bind_ok.mp advanced
    cases advanced
    have acks : source.cb.state.Follows (source.cb.stateAfterAck header) := by
      unfold ControlBlock.stateAfterAck
      split
      · exact State.follows_allAcked _
      · exact .inl rfl
    obtain reset | ⟨-, same | ⟨-, state | ⟨next, -⟩⟩⟩ := ControlBlock.receive_states received
    · exact .inl reset
    · exact .inr (.inl same)
    · refine .inr (acks.moves (.inl ?_))
      exact state
    · exact .inr (acks.moves (State.follows_finTaken next))
  | pollRecv waker =>
    cases advanced
    exact .inr (.inl (pollRecv_state waker source.cb).1)
  | send | close | senderRound | retransmitterRound | acknowledgerRound =>
    right
    obtain same | sent := (step_undisturbed rfl advanced).state
    · exact .inl same
    · rw [show target.cb.state = _ from sent]
      exact (State.follows_finSent _).moves (.inl rfl)

/-- The closed state is final. -/
theorem step_final {source target : Connection κ ρ} {action : Action}
    (final : source.cb.state = .closed) (advanced : source.step profile action = .ok target) :
    target.cb.state = .closed := by
  obtain ⟨-, closed⟩ | same | edge | ⟨between, first, -⟩ := step_moves advanced
  · exact closed
  · rw [same, final]
  · rw [final] at edge
    cases edge
  · rw [final] at first
    cases first

/-- An acknowledgement of everything sent moves `send_unacked` to `send_next`. -/
theorem receive_passes {env : Env} {header : TcpHeader} {data : Buffer} {cb cb' : ControlBlock κ ρ}
    (reaches : cb.ProcessesAck profile header data)
    (all : (cb.sender.acksNew header && header.ackNum == cb.sender.sendNext.value) = true)
    (received : cb.receive profile env header data = .ok cb') :
    cb'.sender.sendUnacked.value ≠ cb.sender.sendUnacked.value ∧
      cb'.sender.sendUnacked.value = cb'.sender.sendNext.value := by
  obtain ⟨new, all⟩ := Bool.and_eq_true_iff.mp all
  obtain ⟨-, -, ⟨-, after⟩ | ⟨stops, -⟩⟩ := ControlBlock.receive_acks received
  · unfold ControlBlock.SenderAfterAck at after
    rw [if_pos new] at after
    obtain ⟨-, -, moved, next, -⟩ := after.sender
    rw [moved, next]
    refine ⟨fun same => ?_, eq_of_beq all⟩
    have ahead := ((SeqNumber.lt_iff _ _).mp (Bool.and_eq_true_iff.mp new).1).1
    rw [show header.ackNum = _ from same, SeqNumber.ahead_self] at ahead
    cases ahead
  · exact absurd reaches stops

/-- The history knows what the sequence numbers stand for: those of our FIN, and that of a
FIN remembered from the peer. -/
structure Closing (past : List (Transition κ ρ)) (c : Connection κ ρ) : Prop where
  numbered : Numbered past c
  heard : ∀ number, c.cb.outOfOrderFin = some number → FinHeard past number

omit [CongestionControl κ] [RtoCalculator ρ] in
/-- What has been heard stays heard. -/
theorem FinHeard.later {past : List (Transition κ ρ)} {number : SeqNumber}
    (heard : FinHeard past number) (transition : Transition κ ρ) :
    FinHeard (transition :: past) number := by
  obtain ⟨arrival, member, arrives⟩ := heard
  exact ⟨arrival, List.mem_cons_of_mem _ member, arrives⟩

/-- One step keeps the numbers in order. -/
theorem step_closing {past : List (Transition κ ρ)} {source target : Connection κ ρ}
    {action : Action} (closing : Closing past source)
    (advanced : source.step profile action = .ok target) :
    Closing (⟨source, action, target⟩ :: past) target := by
  refine ⟨(step_numbered closing.numbered advanced).1, fun number remembered => ?_⟩
  have kept (same : target.cb.outOfOrderFin = source.cb.outOfOrderFin) :
      FinHeard (⟨source, action, target⟩ :: past) number :=
    (closing.heard number (same.symm.trans remembered)).later _
  cases action with
  | receive env header data =>
    obtain ⟨cb, received, advanced⟩ := bind_ok.mp advanced
    cases advanced
    obtain same | ⟨fin, own⟩ := ControlBlock.receive_remembers received
    · exact kept same
    · refine ⟨_, List.mem_cons_self, env, header, data, rfl, fin, ?_⟩
      exact Option.some.inj (own.symm.trans remembered)
  | pollRecv waker =>
    cases advanced
    apply kept
    simp only [ControlBlock.pollRecv]
    split <;> rfl
  | send | close | senderRound | retransmitterRound | acknowledgerRound =>
    exact kept (ControlBlock.outOfOrderFin_eq (step_undisturbed rfl advanced).reception)

/-- One step that is no reset keeps what the state says. -/
theorem step_means {source target : Connection κ ρ} {action : Action}
    {past : List (Transition κ ρ)} (closing : Closing past source)
    (apart : ¬ source.Reset profile action)
    (means : source.cb.state.Means (FinBehind past source) (FinPassed past) (PeerFinTaken past))
    (advanced : source.step profile action = .ok target) :
    target.cb.state.Means (FinBehind (⟨source, action, target⟩ :: past) target)
      (FinPassed (⟨source, action, target⟩ :: past))
      (PeerFinTaken (⟨source, action, target⟩ :: past)) := by
  have recorded : FinPassed past → FinPassed (⟨source, action, target⟩ :: past) := by
    rintro ⟨later, acking, between, leaving, earlier, segment, rfl, passed⟩
    exact ⟨_ :: later, acking, between, leaving, earlier, segment, rfl, passed⟩
  have recorded' : PeerFinTaken past → PeerFinTaken (⟨source, action, target⟩ :: past) := by
    rintro ⟨later, taking, earlier, number, rfl, taken⟩
    exact ⟨_ :: later, taking, earlier, number, rfl, taken⟩
  have kept := means.mono (fun behind => behind.step advanced) recorded recorded'
  by_cases sends : action.sends = true
  · obtain same | ⟨state, behind⟩ := (step_numbered closing.numbered advanced).2 sends
    · rw [same]
      exact kept
    · rw [state]
      exact kept.finSent behind
  cases action with
  | receive env header data =>
    obtain ⟨cb, received, stepped⟩ := bind_ok.mp advanced
    cases stepped
    obtain ⟨reset, -⟩ | ⟨-, same | ⟨reaches, state⟩⟩ := ControlBlock.receive_states received
    · exact absurd reset apart
    · rw [show cb.state = source.cb.state from same]
      exact kept
    -- The state after the ACK section, then after the FIN.
    have acked : (source.cb.stateAfterAck header).Means
        (FinBehind (⟨source, .receive env header data, ⟨cb, source.task⟩⟩ :: past)
          ⟨cb, source.task⟩)
        (FinPassed (⟨source, .receive env header data, ⟨cb, source.task⟩⟩ :: past))
        (PeerFinTaken (⟨source, .receive env header data, ⟨cb, source.task⟩⟩ :: past)) := by
      unfold ControlBlock.stateAfterAck
      split
      · rename_i all
        obtain ⟨moved, everything⟩ := receive_passes reaches all received
        refine (means.allAcked ?_).mono (fun behind => behind.step advanced) id recorded'
        -- Nothing lies behind `send_next`, and the FIN does not lie ahead of it.
        rintro ⟨later, leaving, earlier, segment, rfl, leaves, -, behind⟩
        refine ⟨[], _, later, leaving, earlier, segment, rfl, leaves, moved, ?_⟩
        rw [everything, (ControlBlock.receive_uses received).1, behind]
      · exact kept
    rcases state with state | ⟨finished, number, takes, known⟩
    · rw [show cb.state = _ from state]
      exact acked
    · refine acked.finTaken finished ⟨[], _, past, number, rfl, ?_, takes⟩
      rcases known with ⟨fin, own⟩ | remembered
      · exact ⟨_, List.mem_cons_self, env, header, data, rfl, fin, own.symm⟩
      · exact (closing.heard number remembered).later _
  | pollRecv waker =>
    cases advanced
    rw [show (source.cb.pollRecv waker).1.state = _ from (pollRecv_state waker source.cb).1]
    exact kept
  | send | close | senderRound | retransmitterRound | acknowledgerRound => exact absurd rfl sends

omit [CongestionControl κ] [RtoCalculator ρ] in
/-- A FIN that has left is on record. -/
theorem FinBehind.sent {past : List (Transition κ ρ)} {c : Connection κ ρ}
    (behind : FinBehind past c) : c.FinSent := by
  obtain ⟨later, leaving, earlier, segment, rfl, leaves, member, -⟩ := behind
  exact ⟨segment, member, leaves.fin⟩

/-- The close state machine. Along every run the state moves along the diagram of
RFC 793, or an RST or a SYN in the window closes the connection; once closed it stays
closed. Without such a reset, the states past our FIN are reached only after a FIN of
ours has left, those past its acknowledgement only after `send_unacked` has passed the
number of that FIN, and those past the peer's FIN only after a segment with a FIN has
arrived and `receive_next` has moved over the number of its FIN.

Proof: by induction on the run, with the invariant `Closing` that relates the numbers of
the two FINs to the positions of the sender and the receiver. One lemma says which moves
a step makes, one that a closed connection stays closed, and one that a step keeps the
meaning of the states. -/
theorem close_states (profile : Profile) (args : NewConnection) {past : List (Transition κ ρ)}
    {state : Connection κ ρ} (run : Run profile (Connection.new args) past state) :
    (∀ transition ∈ past, transition.source.cb.state.Moves transition.target.cb.state ∨
      (transition.source.Reset profile transition.action ∧ transition.target.cb.state = .closed)) ∧
    (∀ transition ∈ past, transition.source.cb.state = .closed ∨
      transition.target.cb.state = .closed → state.cb.state = .closed) ∧
    (Runs.Meets (fun c action => ¬ c.Reset profile action) past →
      state.cb.state.Means state.FinSent (FinPassed past) (PeerFinTaken past)) := by
  suffices holds : Closing past state ∧
      (∀ transition ∈ past, transition.source.cb.state.Moves transition.target.cb.state ∨
        (transition.source.Reset profile transition.action ∧ transition.target.cb.state = .closed)) ∧
      (∀ transition ∈ past, transition.source.cb.state = .closed ∨
        transition.target.cb.state = .closed → state.cb.state = .closed) ∧
      (Runs.Meets (fun c action => ¬ c.Reset profile action) past →
        state.cb.state.Means (FinBehind past state) (FinPassed past) (PeerFinTaken past)) by
    obtain ⟨-, moves, final, means⟩ := holds
    exact ⟨moves, final, fun apart => (means apart).mono FinBehind.sent id id⟩
  induction run with
  | nil =>
    refine ⟨⟨⟨trivial, nofun⟩, nofun⟩, by simp, by simp, fun _ => ⟨?_, ?_, ?_⟩⟩
    all_goals
      intro now
      cases now
  | @step past source target action earlier advanced inductionHypothesis =>
    obtain ⟨closing, moves, final, means⟩ := inductionHypothesis
    refine ⟨step_closing closing advanced, fun transition member => ?_,
      fun transition member closed => ?_, fun apart => ?_⟩
    · obtain rfl | member := List.mem_cons.mp member
      · exact (step_moves advanced).symm
      · exact moves transition member
    · obtain rfl | member := List.mem_cons.mp member
      · exact closed.elim (fun before => step_final before advanced) id
      · exact step_final (final transition member closed) advanced
    · obtain ⟨here, before⟩ := (Runs.meets_cons _ _ _).mp apart
      exact step_means closing here (means before) advanced

/-- The application closes, the peer acknowledges and finishes in one segment: the
connection goes from `FinWait1` through `FinWait2` to `TimeWait`. -/
theorem close_states_exchange :
    ∃ past state, Run .dev (Connection.sample 1000 1000 536) past state ∧ past.length = 2 ∧
      state.cb.state = .timeWait ∧ state.FinSent ∧ FinPassed past ∧ PeerFinTaken past := by
  have executed : ∃ past state, execute .dev (Connection.sample 1000 1000 536)
      [.close (Env.sample 0), .segment 100 1001 [] true] = .ok (past, state) ∧ past.length = 2 ∧
      Runs.Meets (fun c action => ¬ c.Reset .dev action) past ∧ state.cb.state = .timeWait := by
    refine ⟨_, _, rfl, by decide, ?_, by decide⟩
    simp only [Runs.meets_cons]
    refine ⟨?_, id, Runs.meets_nil _⟩
    rintro ⟨segment, trims, reset⟩
    cases trims
    rcases reset with reset | reset <;> cases reset
  obtain ⟨past, state, executed, length, apart, reached⟩ := executed
  have run := run_of_execute executed
  obtain ⟨-, -, means⟩ := close_states .dev (NewConnection.sample 1000 1000 536) run
  obtain ⟨sent, acknowledged, taken⟩ := means apart
  rw [reached] at sent acknowledged taken
  exact ⟨past, state, run, length, reached, sent rfl, acknowledged rfl, taken rfl⟩

end Connection

end Capybara
