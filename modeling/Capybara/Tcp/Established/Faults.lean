import Capybara.Tcp.Established.OutOfOrderStore

/-!
# Where receiving a segment can fail

While the unread data fits the receive buffer, building a header cannot fail.
`receive_fault` then leaves three places where `receive` does: the acceptability
test at a closed window, the ACK section, and a FIN in the closed state.
-/

namespace Capybara

open OutOfOrder

variable {κ ρ : Type}

namespace ControlBlock

/-- The receive buffer is a 16-bit window shifted by the window scale, as every
handshake makes it. -/
structure Granted (cb : ControlBlock κ ρ) : Prop where
  scale : cb.windowScale.toNat ≤ 14
  size : ∃ window < 2 ^ 16, cb.receiveBufferSize.toNat = window <<< cb.windowScale.toNat

/-- Only the buffer and the scale matter. -/
theorem Granted.of_eq {cb cb' : ControlBlock κ ρ} (granted : cb.Granted)
    (size : cb'.receiveBufferSize = cb.receiveBufferSize)
    (scale : cb'.windowScale = cb.windowScale) : cb'.Granted :=
  ⟨by rw [scale]; exact granted.scale, by rw [size, scale]; exact granted.size⟩

/-- Such a buffer is far smaller than half the sequence space. -/
theorem Granted.size_lt {cb : ControlBlock κ ρ} (granted : cb.Granted) :
    cb.receiveBufferSize.toNat < 2 ^ 30 := by
  obtain ⟨window, bound, size⟩ := granted.size
  calc cb.receiveBufferSize.toNat
      = window * 2 ^ cb.windowScale.toNat := by rw [size, Nat.shiftLeft_eq]
    _ < 2 ^ 16 * 2 ^ cb.windowScale.toNat :=
      Nat.mul_lt_mul_of_pos_right bound (Nat.two_pow_pos _)
    _ ≤ 2 ^ 16 * 2 ^ 14 := Nat.mul_le_mul_left _ (Nat.pow_le_pow_right (by decide) granted.scale)
    _ = 2 ^ 30 := by decide

/-- A connection with a granted window whose unread data fits is settled. -/
theorem Granted.settled {cb : ControlBlock κ ρ} (granted : cb.Granted)
    (fits : cb.unread ≤ cb.receiveBufferSize.toNat) : cb.Settled := by
  have small := granted.size_lt
  exact ⟨fits, by omega⟩

/-- The window field can be computed while the unread data fits. -/
theorem Granted.hdrWindowSize {cb : ControlBlock κ ρ} (granted : cb.Granted)
    (fits : cb.unread ≤ cb.receiveBufferSize.toNat) (profile : Profile) :
    ∃ size, cb.hdrWindowSize profile = .ok size := by
  have scale := granted.scale
  obtain ⟨window, bound, size⟩ := granted.size
  have shifted : shrU32 profile cb.window cb.windowScale.toNat =
      .ok (cb.window >>> cb.windowScale.toNat) := by
    simp only [shrU32]
    rw [if_pos (by omega)]
  have sixteen : cb.window >>> cb.windowScale.toNat < 2 ^ 16 := by
    calc cb.window >>> cb.windowScale.toNat
        ≤ cb.receiveBufferSize.toNat >>> cb.windowScale.toNat := by
          rw [Nat.shiftRight_eq_div_pow, Nat.shiftRight_eq_div_pow]
          exact Nat.div_le_div_right (Nat.sub_le _ _)
      _ = window := by rw [size, Nat.shiftLeft_shiftRight]
      _ < 2 ^ 16 := bound
  rw [ControlBlock.hdrWindowSize, getReceiveWindowSize_settled profile (granted.settled fits)]
  simp only [bind, Except.bind, shifted, if_pos sixteen]
  exact ⟨_, rfl⟩

/-- In-order text, the stored run that continues it and a FIN taken with it fit
the window together. -/
def JoinFits (cb : ControlBlock κ ρ) (text : Text) : Prop :=
  ∀ front rest fin, cb.reception.Joins text front rest fin →
    text.bytes.length + storedLength front + fin.toNat ≤ cb.window

/-- Numbers received add to the unread ones. -/
theorem unread_advanced {cb : ControlBlock κ ρ} (cb' : ControlBlock κ ρ) (count : Nat)
    (settled : cb.Settled)
    (fits : count ≤ cb.window) (reader : cb'.receiver.readerNext = cb.receiver.readerNext)
    (next : cb'.receiver.receiveNext = cb.receiver.receiveNext.advanced count)
    (size : cb'.receiveBufferSize = cb.receiveBufferSize) :
    cb'.unread = cb.unread + count ∧ cb'.unread ≤ cb'.receiveBufferSize.toNat := by
  obtain ⟨holds, small⟩ := settled
  unfold window at fits
  have total : cb'.unread = cb.unread + count := by
    unfold unread at holds fits ⊢
    rw [reader, next, SeqNumber.ahead_to_advanced (by omega)]
  rw [size]
  exact ⟨total, by omega⟩

/-- A text that carries its FIN in the window leaves room for it. -/
theorem text_fin_room (cb : ControlBlock κ ρ) (header : TcpHeader) (data : Buffer)
    (fin : (cb.textInWindow header data).fin = true) :
    (cb.textInWindow header data).offset + (cb.textInWindow header data).bytes.length < cb.window := by
  simp only [textInWindow, Bool.and_eq_true, decide_eq_true_eq] at fin
  simp only [textInWindow, List.length_take, List.length_drop]
  omega

/-- The FIN section fails only in the closed state, if there is room for the FIN. -/
theorem receiveFin_fault {profile : Profile} {env : Env} {cb : ControlBlock κ ρ} {fault : Fault}
    (granted : cb.Granted) (settled : cb.Settled) (room : 0 < cb.window)
    (fails : cb.receiveFin profile env = .error fault) :
    fault = .badTcpState ∧ cb.state = .closed := by
  unfold receiveFin at fails
  dsimp only at fails
  split at fails
  · rename_i none
    refine ⟨(Except.error.inj fails).symm, ?_⟩
    cases state : cb.state <;> rw [state] at none <;> first | rfl | cases none
  · rename_i state next
    let after : ControlBlock κ ρ := { cb.disableStats with
      receiver := { cb.receiver with receiveNext := cb.receiver.receiveNext + SeqNumber.ofU32 1 }
      state }
    have fits : after.unread ≤ after.receiveBufferSize.toNat :=
      (unread_advanced after 1 settled room rfl rfl rfl).2
    have granted' : after.Granted := granted.of_eq rfl rfl
    obtain ⟨size, header⟩ := granted'.hdrWindowSize fits profile
    obtain ⟨cb', sent⟩ := sendAck_of_window env header
    cases sent.symm.trans fails

/-- Owing an acknowledgement does not fail while the unread data fits. -/
theorem scheduleAck_of_fits (profile : Profile) (env : Env) {cb : ControlBlock κ ρ}
    (granted : cb.Granted) (fits : cb.unread ≤ cb.receiveBufferSize.toNat) :
    ∃ cb', cb.scheduleAck profile env = .ok cb' := by
  unfold scheduleAck
  split
  · exact ⟨_, rfl⟩
  · obtain ⟨size, header⟩ := granted.hdrWindowSize fits profile
    have same : { cb with ackDeadline := none }.reception = cb.reception := rfl
    rw [← hdrWindowSize_eq same] at header
    exact sendAck_of_window env header

/-- The sections that process the text fail only on a FIN in the closed state. -/
theorem receiveText_fault {profile : Profile} {env : Env} {cb acked : ControlBlock κ ρ}
    {text : Text} {segment : Accepted} {fault : Fault} (same : acked.reception = cb.reception)
    (granted : cb.Granted) (settled : cb.Settled)
    (stored : AllParts (fun _ _ => True) cb.outOfOrder)
    (inside : cb.Inside segment text.offset) (plain : segment.header.syn = false)
    (bytes : segment.data = text.bytes) (fin : segment.header.fin = text.fin)
    (finRoom : text.fin = true → text.offset + text.bytes.length < cb.window)
    (joinFits : text.offset = 0 → text.bytes ≠ [] → acked.state.receivesData = true →
      cb.JoinFits text)
    (fails : acked.receiveText profile env text segment = .error fault) :
    fault = .badTcpState ∧ text.offset = 0 ∧ text.fin = true ∧ acked.state = .closed := by
  have granted' : acked.Granted :=
    granted.of_eq (receiveBufferSize_eq same) (windowScale_eq same)
  have settled' : acked.Settled := settled_of_eq same settled
  have small := settled.window_lt
  have parts : segment.segLen = text.length := by
    rw [inside.length, sequenceLength, plain, bytes, fin]
    rfl
  have length : text.bytes.length ≤ text.length := Nat.le_add_right _ _
  have fits := inside.inside
  unfold receiveText at fails
  split at fails
  · rename_i inOrder
    by_cases textual : text.bytes ≠ [] ∧ acked.state.receivesData = true
    · exfalso
      obtain ⟨some, receives⟩ := textual
      have starts : segment.segStart = acked.receiver.receiveNext := by
        rw [inside.start, inOrder, SeqNumber.advanced_zero, receiver_eq same]
      obtain ⟨joined, front, rest, taken, equation, joins, seen⟩ :=
        receiveInOrder_text profile env starts (by rw [bytes]; exact some) receives
      rw [same, bytes, fin] at joins
      have room := joinFits inOrder some receives front rest taken
        ⟨joins.store, joins.laid, joins.stops, joins.fin⟩
      have reception : joined.reception = cb.reception.joined text.bytes front rest false := by
        rw [← same, ← bytes]
        exact congrArg View.reception seen
      have size : joined.receiveBufferSize = cb.receiveBufferSize :=
        congrArg Reception.receiveBufferSize reception
      have joinedGranted : joined.Granted :=
        granted.of_eq size (congrArg Reception.windowScale reception)
      obtain ⟨total, held⟩ := unread_advanced joined (text.bytes.length + storedLength front)
        settled (by omega) (congrArg (fun after => after.receiver.readerNext) reception)
        (congrArg (fun after => after.receiver.receiveNext) reception) size
      rw [equation] at fails
      cases taken with
      | false =>
        obtain ⟨cb', scheduled⟩ := scheduleAck_of_fits profile env joinedGranted held
        cases scheduled.symm.trans fails
      | true =>
        have state : joined.state = acked.state := congrArg View.state seen
        have left : 0 < joined.window := by
          rw [Bool.toNat_true] at room
          unfold window at room ⊢
          rw [total, size]
          omega
        obtain ⟨-, closed⟩ := receiveFin_fault joinedGranted (joinedGranted.settled held) left fails
        rw [← state, closed] at receives
        cases receives
    · have none : text.bytes = [] ∨ acked.state.receivesData = false := by
        rw [← Bool.not_eq_true]
        exact Decidable.not_and_iff_not_or_not.mp textual |>.imp_left Decidable.not_not.mp
      rw [receiveInOrder_no_text profile env (by rw [bytes]; exact none), fin] at fails
      cases finFlag : text.fin with
      | false =>
        rw [finFlag] at fails
        cases fails
      | true =>
        rw [finFlag] at fails
        have room : 0 < acked.window := by
          have := finRoom finFlag
          rw [window_eq same]
          omega
        obtain ⟨named, closed⟩ := receiveFin_fault granted' settled' room fails
        exact ⟨named, inOrder, rfl, closed⟩
  · rename_i later
    exfalso
    by_cases stores : 0 < text.length ∧ acked.state.receivesData = true
    · obtain ⟨occupied, receives⟩ := stores
      rw [receiveOutOfOrder_text profile env (inside_of_eq same inside) plain
        (by rw [bytes]; omega) (by rw [parts]; exact occupied) receives, bytes, fin, same] at fails
      obtain ⟨store, inserts, -⟩ := storeText_parts profile ⟨fun _ _ _ _ _ => trivial,
        fun _ _ _ _ _ => trivial⟩ cb.reception text stored (by omega) (fun _ => trivial)
      rw [show cb.reception.storeText profile ⟨text.offset, text.bytes, text.fin⟩ = .ok store from
        inserts] at fails
      obtain ⟨size, header⟩ := granted'.hdrWindowSize settled'.fits profile
      let after : ControlBlock κ ρ := { acked with
        outOfOrder := store
        outOfOrderFin := cb.reception.rememberFin text }
      have header : after.hdrWindowSize profile = .ok size := header
      obtain ⟨cb', sent⟩ := sendAck_of_window env header
      cases sent.symm.trans fails
    · have idle : (decide (segment.segLen > 0) && acked.state.receivesData) = false := by
        rw [parts]
        simpa using stores
      simp only [receiveOutOfOrder, idle, Bool.false_eq_true, if_false] at fails
      cases fails

variable [CongestionControl κ] [RtoCalculator ρ]

/-- The places where `receive` can fail while joined text fits the window. -/
theorem receive_fault {profile : Profile} {env : Env} {cb : ControlBlock κ ρ} {header : TcpHeader}
    {data : Buffer} {fault : Fault} (granted : cb.Granted) (settled : cb.Settled)
    (short : sequenceLength header data ≤ 2 ^ 31)
    (stored : AllParts (fun _ _ => True) cb.outOfOrder)
    (joinFits : cb.ReachesText header data → (cb.textInWindow header data).offset = 0 →
      (cb.textInWindow header data).bytes ≠ [] → cb.state.receivesData = true →
        cb.JoinFits (cb.textInWindow header data))
    (fails : cb.receive profile env header data = .error fault) :
    (cb.ClosedWindowFault profile header data ∧
      (fault = .trimPastBeginning ∨ fault = .segmentOutsideWindow)) ∨
    (cb.ReachesAck header data ∧ cb.processAck profile env header = .error fault) ∨
    (cb.ReachesText header data ∧ fault = .badTcpState ∧
      (cb.textInWindow header data).offset = 0 ∧ (cb.textInWindow header data).fin = true ∧
      cb.stateAfterAck header = .closed) := by
  obtain ⟨size, fits⟩ := granted.hdrWindowSize settled.fits profile
  by_cases failing : cb.ClosedWindowFault profile header data
  · obtain ⟨expected, named, trims⟩ := trimToWindow_fault profile settled short failing
    rw [receive, trims] at fails
    cases fails
    exact .inl ⟨failing, named⟩
  right
  by_cases reaches : cb.ReachesAck header data
  · obtain ⟨segment, inside, plain, bytes, fin, equation⟩ :=
      receive_reaches profile env settled short failing reaches
    rw [equation] at fails
    cases processed : cb.processAck profile env header with
    | error expected =>
      rw [processed] at fails
      cases fails
      exact .inl ⟨reaches, rfl⟩
    | ok result =>
      obtain ⟨acked, proceed⟩ := result
      obtain ⟨rfl, -, seen⟩ := processAck_ok processed
      have same : acked.reception = cb.reception := congrArg View.reception seen
      have state : acked.state = cb.stateAfterAck header := congrArg View.state seen
      rw [processed] at fails
      simp only [bind, Except.bind] at fails
      cases unsent : cb.sender.acksUnsent header with
      | true =>
        rw [unsent] at fails
        rw [← hdrWindowSize_eq same] at fits
        obtain ⟨cb', sent⟩ := sendAck_of_window env fits
        cases sent.symm.trans fails
      | false =>
        rw [unsent] at fails
        obtain ⟨named, inOrder, finFlag, closed⟩ := receiveText_fault same granted settled stored
          inside plain bytes fin (cb.text_fin_room header data)
          (fun inOrder some receives => joinFits ⟨reaches, unsent⟩ inOrder some
            (by rwa [state, stateAfterAck_receivesData] at receives)) fails
        exact .inr ⟨⟨reaches, unsent⟩, named, inOrder, finFlag, state ▸ closed⟩
  · exfalso
    obtain acknowledges | ⟨state, stats, result, -⟩ :=
      receive_stops profile env settled short failing reaches
    · obtain ⟨cb', sent⟩ := sendAck_of_window env fits
      rw [acknowledges, sent] at fails
      cases fails
    · rw [result] at fails
      cases fails

end ControlBlock

end Capybara
