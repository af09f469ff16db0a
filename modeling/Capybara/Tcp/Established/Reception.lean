import Capybara.Tcp.Established.View

/-!
# What receiving a segment does

`receive_cases` says once what a successful `receive` can do, in terms of the
text of the segment that lies in the window: drop the segment, ignore its text,
store text for later, join text to the received data together with the stored
run that continues it, or take a FIN alone. Every invariant of the receiving
side is derived from it.
-/

namespace Capybara

variable {κ ρ : Type}

/-! ## The stored run that continues the received data -/

/-- Bytes held by a list of stored entries. -/
def storedLength (entries : List (SeqNumber × Buffer)) : Nat :=
  (entries.map fun entry => entry.2.length).sum

/-- An empty store has no bytes. -/
@[simp] theorem storedLength_nil : storedLength [] = 0 := rfl

/-- An entry adds its bytes. -/
@[simp] theorem storedLength_cons (entry : SeqNumber × Buffer) (rest : List (SeqNumber × Buffer)) :
    storedLength (entry :: rest) = entry.2.length + storedLength rest := by
  simp [storedLength]

/-- Entries laid end to end, the first at the given number. -/
def Laid : SeqNumber → List (SeqNumber × Buffer) → Prop
  | _, [] => True
  | start, entry :: rest => entry.1 = start ∧ Laid (start.advanced entry.2.length) rest

/-- A length that is cut to 32 bits advances a sequence number as far as the whole one. -/
theorem SeqNumber.advanced_asU32 (origin : SeqNumber) (length : Nat) :
    origin + ofU32 (asU32 length) = origin.advanced length := by
  apply SeqNumber.ext
  change origin.value + BitVec.ofNat 32 (length % 2 ^ 32) = origin.value + BitVec.ofNat 32 length
  congr 1
  apply BitVec.eq_of_toNat_eq
  simp

namespace Reception

/-- The receiving side after in-order bytes, the stored run `front` and, with
`fin`, the number of a FIN. -/
def joined (before : Reception) (bytes : Buffer) (front rest : List (SeqNumber × Buffer))
    (fin : Bool) : Reception :=
  { before with
    receiver := { before.receiver with
      recvQueue := before.receiver.recvQueue ++ bytes :: front.map Prod.snd
      receiveNext := before.receiver.receiveNext.advanced
        (bytes.length + storedLength front + fin.toNat) }
    outOfOrder := rest }

/-- The receiving side after the number of a FIN. -/
def pastFin (before : Reception) : Reception :=
  { before with
    receiver := { before.receiver with receiveNext := before.receiver.receiveNext.advanced 1 } }

/-- Out-of-order text as the new segment of the store. -/
def newSegment (before : Reception) (text : Text) : OutOfOrder.NewSegment where
  newStart := before.receiver.receiveNext.advanced text.offset
  newEnd := before.receiver.receiveNext.advanced (text.offset + text.bytes.length - 1)
  buf := text.bytes

/-- The store once out-of-order text has been inserted. -/
def storeText (profile : Profile) (before : Reception) (text : Text) :
    Checked (List (SeqNumber × Buffer)) :=
  if text.bytes = [] then .ok before.outOfOrder
  else do
    let (store, inserted) ← OutOfOrder.inserted profile before.outOfOrder (before.newSegment text)
    .ok (if inserted then store.take MAX_OUT_OF_ORDER else store)

/-- The FIN remembered once out-of-order text has been seen. -/
def rememberFin (before : Reception) (text : Text) : Option SeqNumber :=
  if text.fin then
    some (before.receiver.receiveNext.advanced (text.offset + text.bytes.length))
  else before.outOfOrderFin

/-- How in-order text joins the received data. -/
structure Joins (before : Reception) (text : Text) (front rest : List (SeqNumber × Buffer))
    (fin : Bool) : Prop where
  store : before.outOfOrder = front ++ rest
  laid : Laid (before.receiver.receiveNext.advanced text.bytes.length) front
  stops : ∀ entry ∈ rest.head?, entry.1 ≠
    before.receiver.receiveNext.advanced (text.bytes.length + storedLength front)
  fin : fin = (text.fin || (!front.isEmpty && before.outOfOrderFin ==
    some (before.receiver.receiveNext.advanced (text.bytes.length + storedLength front))))

end Reception

namespace ControlBlock

/-- The drain loop moves the longest front of the store that is laid from
`recvNext` on. -/
theorem recoverStored_spec (store : List (SeqNumber × Buffer)) (recvNext : SeqNumber)
    (receiver : Receiver) : ∃ front rest, store = front ++ rest ∧ Laid recvNext front ∧
      (∀ entry ∈ rest.head?, entry.1 ≠ recvNext.advanced (storedLength front)) ∧
      recoverStored store recvNext receiver = ({ receiver with
        recvQueue := receiver.recvQueue ++ front.map Prod.snd
        receiveNext := receiver.receiveNext.advanced (storedLength front) },
        rest, recvNext.advanced (storedLength front), !front.isEmpty) := by
  induction store generalizing recvNext receiver with
  | nil => exact ⟨[], [], rfl, trivial, by simp, by simp [recoverStored]⟩
  | cons entry store inductionHypothesis =>
    obtain ⟨start, buf⟩ := entry
    by_cases continues : start = recvNext
    · subst continues
      obtain ⟨front, rest, split, laid, stops, recovered⟩ :=
        inductionHypothesis (start.advanced buf.length) (receiver.push buf)
      refine ⟨(start, buf) :: front, rest, by rw [split, List.cons_append], ⟨rfl, laid⟩, ?_, ?_⟩
      · simpa [SeqNumber.advanced_advanced] using stops
      · simp only [recoverStored, if_true, SeqNumber.advanced_asU32, recovered]
        simp [Receiver.push, SeqNumber.advanced_asU32, SeqNumber.advanced_advanced]
    · refine ⟨[], (start, buf) :: store, rfl, trivial, ?_, ?_⟩
      · simpa using continues
      · simp [recoverStored, continues]

/-- `receive_data` joins the text and the stored run that continues it. -/
theorem receiveData_spec (profile : Profile) (cb : ControlBlock κ ρ) (buf : Buffer) :
    ∃ cb' front rest,
      cb.receiveData profile cb.receiver.receiveNext buf = .ok (cb', !front.isEmpty &&
        cb.outOfOrderFin == some (cb.receiver.receiveNext.advanced
          (buf.length + storedLength front))) ∧
      cb.outOfOrder = front ++ rest ∧
      Laid (cb.receiver.receiveNext.advanced buf.length) front ∧
      (∀ entry ∈ rest.head?, entry.1 ≠
        cb.receiver.receiveNext.advanced (buf.length + storedLength front)) ∧
      cb'.view = { cb.view with reception := cb.reception.joined buf front rest false } ∧
      cb'.ackDeadline = cb.ackDeadline := by
  obtain ⟨front, rest, split, laid, stops, recovered⟩ := recoverStored_spec cb.outOfOrder
    (cb.receiver.receiveNext.advanced buf.length) (cb.receiver.push buf)
  have started : debugAssert profile (cb.receiver.receiveNext == cb.receiver.receiveNext)
      .segmentNotInOrder = .ok () := by
    rw [beq_self_eq_true, debugAssert_true]
  refine ⟨{ cb with
    receiver := (cb.reception.joined buf front rest false).receiver
    outOfOrder := rest
    waker := none
    woken := cb.woken ++ cb.waker.toList }, front, rest, ?_, split, laid, ?_, rfl, rfl⟩
  · rw [receiveData, started]
    simp only [bind, Except.bind, SeqNumber.advanced_asU32, recovered]
    simp [Receiver.push, Reception.joined, reception, SeqNumber.advanced_asU32,
      SeqNumber.advanced_advanced]
  · simpa [SeqNumber.advanced_advanced] using stops

/-- The state after in-order text, with or without a FIN. A FIN is acknowledged
at once, so the window field could be computed. -/
def FinTaken (profile : Profile) (state : State) (fin : Bool) (cb' : ControlBlock κ ρ) : Prop :=
  if fin then stateAfterFin state = some cb'.state ∧ ∃ size, cb'.hdrWindowSize profile = .ok size
  else cb'.state = state

/-- The FIN section advances over one number and acknowledges it. -/
theorem receiveFin_ok {profile : Profile} {env : Env} {cb cb' : ControlBlock κ ρ}
    (received : cb.receiveFin profile env = .ok cb') :
    ∃ acks, PureAcks acks ∧ FinTaken profile cb.state true cb' ∧
      cb'.view = { cb.view with
        reception := cb.reception.pastFin
        state := cb'.state
        transmitted := cb.transmitted ++ acks } := by
  unfold receiveFin at received
  dsimp only at received
  split at received
  · cases received
  · rename_i state next
    obtain ⟨⟨size, fits⟩, acks, pure, seen⟩ := sendAck_ok received
    have reached : cb'.state = state := congrArg View.state seen
    refine ⟨acks, pure, ?_, ?_⟩
    · simp only [FinTaken, if_true, reached]
      exact ⟨next, size, by rw [← fits]; exact hdrWindowSize_eq (congrArg View.reception seen) profile⟩
    · rw [seen, reached]
      rfl

/-- Scheduling an acknowledgement may send one. -/
theorem scheduleAck_ok {profile : Profile} {env : Env} {cb cb' : ControlBlock κ ρ}
    (scheduled : cb.scheduleAck profile env = .ok cb') :
    ∃ acks, PureAcks acks ∧ cb'.view = { cb.view with transmitted := cb.transmitted ++ acks } := by
  unfold scheduleAck at scheduled
  split at scheduled
  · cases scheduled
    exact ⟨[], by simp [PureAcks], by simp [view, reception]⟩
  · obtain ⟨-, acks, pure, seen⟩ := sendAck_ok scheduled
    exact ⟨acks, pure, seen⟩

/-- In-order text in a state that receives data: join it, then take the FIN or
owe an acknowledgement. -/
theorem receiveInOrder_text (profile : Profile) (env : Env) {cb : ControlBlock κ ρ}
    {segment : Accepted} (starts : segment.segStart = cb.receiver.receiveNext)
    (bytes : segment.data ≠ []) (receives : cb.state.receivesData = true) :
    ∃ (joined : ControlBlock κ ρ) (front rest : List (SeqNumber × Buffer)) (fin : Bool),
      cb.receiveInOrder profile env segment =
        (if fin then joined.receiveFin profile env else joined.scheduleAck profile env) ∧
      cb.reception.Joins ⟨0, segment.data, segment.header.fin⟩ front rest fin ∧
      joined.view = { cb.view with
        reception := cb.reception.joined segment.data front rest false } := by
  obtain ⟨joined, front, rest, joins, split, laid, stops, seen, -⟩ :=
    receiveData_spec profile cb segment.data
  have text : (!segment.data.isEmpty && cb.state.receivesData) = true := by
    simp [bytes, receives]
  refine ⟨joined, front, rest, _, ?_, ⟨split, laid, stops, rfl⟩, seen⟩
  simp only [receiveInOrder, text, if_true, starts, joins]
  rfl

/-- A segment without text to receive: take its FIN, or nothing. -/
theorem receiveInOrder_no_text (profile : Profile) (env : Env) {cb : ControlBlock κ ρ}
    {segment : Accepted} (none : segment.data = [] ∨ cb.state.receivesData = false) :
    cb.receiveInOrder profile env segment =
      if segment.header.fin then cb.receiveFin profile env else .ok cb := by
  have text : (!segment.data.isEmpty && cb.state.receivesData) = false := by
    rcases none with empty | refuses
    · simp [empty]
    · simp [refuses]
  simp only [receiveInOrder, text]
  rfl

/-- The receiving side and the state after joined in-order text. -/
theorem joined_ok {profile : Profile} {env : Env} {cb joined cb' : ControlBlock κ ρ}
    {bytes : Buffer} {front rest : List (SeqNumber × Buffer)} {fin : Bool}
    (seen : joined.view = { cb.view with
      reception := cb.reception.joined bytes front rest false })
    (received : (if fin then joined.receiveFin profile env else joined.scheduleAck profile env) =
      .ok cb') :
    ∃ acks, PureAcks acks ∧ FinTaken profile cb.state fin cb' ∧
      cb'.view = { cb.view with
        reception := cb.reception.joined bytes front rest fin
        state := cb'.state
        transmitted := cb.transmitted ++ acks } := by
  have state : joined.state = cb.state := congrArg View.state seen
  have transmitted : joined.transmitted = cb.transmitted := congrArg View.transmitted seen
  have reception : joined.reception = cb.reception.joined bytes front rest false :=
    congrArg View.reception seen
  cases fin with
  | true =>
    obtain ⟨acks, pure, taken, after⟩ := receiveFin_ok received
    rw [state] at taken
    refine ⟨acks, pure, taken, ?_⟩
    rw [after, seen, reception, transmitted]
    simp [Reception.joined, Reception.pastFin, SeqNumber.advanced_advanced]
  | false =>
    obtain ⟨acks, pure, after⟩ := scheduleAck_ok received
    have kept : cb'.state = cb.state := (congrArg View.state after).trans state
    refine ⟨acks, pure, kept, ?_⟩
    rw [after, seen, transmitted, kept]
    rfl

/-- Storing the bytes of a text, if it has any. -/
theorem storeOutOfOrderSegment_text (profile : Profile) (cb : ControlBlock κ ρ) (text : Text)
    (segEnd : SeqNumber) (last : text.bytes ≠ [] → segEnd =
      cb.receiver.receiveNext.advanced (text.offset + text.bytes.length - 1)) :
    (if text.bytes.length > 0 then
      cb.storeOutOfOrderSegment profile (cb.receiver.receiveNext.advanced text.offset) segEnd text.bytes
    else .ok cb) =
      (do
        let store ← cb.reception.storeText profile text
        .ok { cb with outOfOrder := store }) := by
  by_cases empty : text.bytes = []
  · simp only [Reception.storeText, empty, List.length_nil, gt_iff_lt, Nat.lt_irrefl, if_true, if_false]
    rfl
  · have some : text.bytes.length > 0 := List.length_pos_iff.mpr empty
    simp only [Reception.storeText, empty, some, last empty, if_true, if_false,
      storeOutOfOrderSegment, bind_assoc]
    rfl

/-- Out-of-order text in a state that receives data is stored and acknowledged. -/
theorem receiveOutOfOrder_text (profile : Profile) (env : Env) {cb : ControlBlock κ ρ}
    {segment : Accepted} {offset : Nat} (inside : cb.Inside segment offset)
    (plain : segment.header.syn = false) (fits : segment.data.length < 2 ^ 32)
    (occupied : 0 < segment.segLen) (receives : cb.state.receivesData = true) :
    cb.receiveOutOfOrder profile env segment = (do
      let store ← cb.reception.storeText profile ⟨offset, segment.data, segment.header.fin⟩
      { cb with
        outOfOrder := store
        outOfOrderFin := cb.reception.rememberFin ⟨offset, segment.data, segment.header.fin⟩
        }.sendAck profile env) := by
  have parts : segment.segLen =
      segment.data.length + segment.header.syn.toNat + segment.header.fin.toNat := inside.length
  have last := inside.last occupied
  have start := inside.start
  rw [plain, Bool.toNat_false, Nat.add_zero] at parts
  have counted (segLen : Nat) (same : segLen = segment.data.length) :
      debugAssert profile (segLen == asU32 segment.data.length) .segmentLengthMismatch = .ok () := by
    rw [same, asU32_of_lt fits, beq_self_eq_true, debugAssert_true]
  simp only [receiveOutOfOrder, receives, occupied, decide_true, Bool.and_self, if_true]
  cases fin : segment.header.fin with
  | false =>
    rw [fin, Bool.toNat_false, Nat.add_zero] at parts
    have stored := storeOutOfOrderSegment_text profile cb ⟨offset, segment.data, false⟩
      segment.segEnd (fun _ => by rw [last, parts])
    dsimp only at stored
    simp only [Bool.false_eq_true, if_false, bind, Except.bind, counted _ parts]
    change ((if segment.segLen > 0 then cb.storeOutOfOrderSegment profile segment.segStart
      segment.segEnd segment.data else .ok cb) >>= fun stored => stored.sendAck profile env) = _
    rw [parts, start, stored, bind_assoc]
    rfl
  | true =>
    rw [fin, Bool.toNat_true] at parts
    have shorter : segment.segLen - 1 = segment.data.length := by omega
    have remembered : cb.reception.rememberFin ⟨offset, segment.data, true⟩ = some segment.segEnd := by
      rw [last, parts]
      rfl
    have stored := storeOutOfOrderSegment_text profile
      { cb with outOfOrderFin := some segment.segEnd } ⟨offset, segment.data, true⟩
      (segment.segEnd - SeqNumber.ofU32 1) (fun bytes => by
        have some := List.length_pos_iff.mpr bytes
        dsimp only at some
        rw [last, SeqNumber.sub_ofU32 _ _ _ (by omega), parts]
        rfl)
    dsimp only at stored
    simp only [if_true, subU32_of_le profile occupied, bind, Except.bind, counted _ shorter]
    change ((if segment.segLen - 1 > 0 then
      { cb with outOfOrderFin := some segment.segEnd }.storeOutOfOrderSegment profile
        segment.segStart (segment.segEnd - SeqNumber.ofU32 1) segment.data
      else .ok { cb with outOfOrderFin := some segment.segEnd }) >>=
        fun stored => stored.sendAck profile env) = _
    rw [shorter, start, stored, bind_assoc, remembered]
    rfl

end ControlBlock

/-! ## The acknowledgement -/

namespace Sender

/-- The segment acknowledges something sent and not yet acknowledged. -/
def acksNew (sender : Sender) (header : TcpHeader) : Bool :=
  sender.sendUnacked.value.lt header.ackNum && header.ackNum.le sender.sendNext.value

/-- The segment acknowledges something that was never sent. -/
def acksUnsent (sender : Sender) (header : TcpHeader) : Bool :=
  sender.sendUnacked.value.lt header.ackNum && !header.ackNum.le sender.sendNext.value

end Sender

namespace ControlBlock

/-- The state after the acknowledgement of a segment. -/
def stateAfterAck (cb : ControlBlock κ ρ) (header : TcpHeader) : State :=
  if cb.sender.acksNew header && header.ackNum == cb.sender.sendNext.value then
    stateAfterAllAcked cb.state
  else cb.state

/-- An acknowledgement never changes whether data may be received. -/
theorem stateAfterAck_receivesData (cb : ControlBlock κ ρ) (header : TcpHeader) :
    (cb.stateAfterAck header).receivesData = cb.state.receivesData := by
  unfold stateAfterAck
  split
  · cases cb.state <;> rfl
  · rfl

variable [CongestionControl κ] [RtoCalculator ρ]

/-- The sender that an acknowledgement of new data leaves behind. -/
def Acknowledged (profile : Profile) (now : Instant) (cb : ControlBlock κ ρ) (header : TcpHeader)
    (sender : Sender) : Prop :=
  ∃ unackedQueue rto,
    Sender.removeAcknowledged profile now cb.sender.unackedQueue
      (cb.sender.sendUnacked.value.ahead header.ackNum) cb.rtoCalculator = .ok (unackedQueue, rto) ∧
    { cb.sender with
      unackedQueue
      sendUnacked := cb.sender.sendUnacked.set header.ackNum }.updateSendWindow profile header =
        .ok sender

/-- What the ACK section does to the sender. -/
def SenderAfterAck (profile : Profile) (now : Instant) (cb : ControlBlock κ ρ) (header : TcpHeader)
    (sender : Sender) : Prop :=
  if cb.sender.acksNew header then cb.Acknowledged profile now header sender
  else sender = cb.sender

/-- The ACK section changes the sender and the state, and stops at an
acknowledgement of something never sent. -/
theorem processAck_ok {profile : Profile} {env : Env} {cb cb' : ControlBlock κ ρ}
    {header : TcpHeader} {proceed : Bool}
    (processed : cb.processAck profile env header = .ok (cb', proceed)) :
    proceed = !cb.sender.acksUnsent header ∧
      cb.SenderAfterAck profile env.now header cb'.sender ∧
      cb'.view = { cb.view with
        sender := cb'.sender
        state := cb.stateAfterAck header } := by
  unfold processAck at processed
  dsimp only at processed
  split at processed
  · rename_i ahead
    split at processed
    · rename_i sent
      have new : cb.sender.acksNew header = true := by simp [Sender.acksNew, ahead, sent]
      have known : cb.sender.acksUnsent header = false := by simp [Sender.acksUnsent, sent]
      obtain ⟨⟨unackedQueue, rto⟩, removed, processed⟩ := bind_ok.mp processed
      obtain ⟨sender, updated, processed⟩ := bind_ok.mp processed
      dsimp only at processed
      split at processed
      · rename_i all
        cases processed
        refine ⟨by simp [known], ?_, ?_⟩
        · simp only [SenderAfterAck, new, if_true]
          exact ⟨unackedQueue, rto, removed, updated⟩
        · simp only [stateAfterAck, new, all, beq_self_eq_true, Bool.and_self, if_true]
          rfl
      · rename_i some
        cases processed
        refine ⟨by simp [known], ?_, ?_⟩
        · simp only [SenderAfterAck, new, if_true]
          exact ⟨unackedQueue, rto, removed, updated⟩
        · simp only [stateAfterAck, new, beq_eq_false_iff_ne.mpr some, Bool.and_false,
            Bool.false_eq_true, if_false]
          rfl
    · rename_i unsent
      cases processed
      refine ⟨?_, ?_, ?_⟩
      · simp [Sender.acksUnsent, ahead, unsent]
      · simp [SenderAfterAck, Sender.acksNew, unsent]
      · simp [stateAfterAck, Sender.acksNew, unsent, view, reception]
  · rename_i old
    cases processed
    refine ⟨?_, ?_, ?_⟩
    · simp [Sender.acksUnsent, old]
    · simp [SenderAfterAck, Sender.acksNew, old]
    · simp [stateAfterAck, Sender.acksNew, old, view, reception]

/-! ## The whole routine -/

/-- The segment gets as far as the ACK section. -/
def ReachesAck (cb : ControlBlock κ ρ) (header : TcpHeader) (data : Buffer) : Prop :=
  cb.Acceptable header data ∧ header.rst = false ∧
    (header.syn && !header.seqNum.lt cb.receiver.receiveNext) = false ∧ header.ack = true

/-- The segment gets as far as the sections that process its text. -/
def ReachesText (cb : ControlBlock κ ρ) (header : TcpHeader) (data : Buffer) : Prop :=
  cb.ReachesAck header data ∧ cb.sender.acksUnsent header = false

instance (cb : ControlBlock κ ρ) (header : TcpHeader) (data : Buffer) :
    Decidable (cb.ReachesAck header data) := by
  unfold ReachesAck
  infer_instance

instance (cb : ControlBlock κ ρ) (header : TcpHeader) (data : Buffer) :
    Decidable (cb.ReachesText header data) := by
  unfold ReachesText
  infer_instance

/-- The sections that follow the ACK, on a segment trimmed to the window. -/
def receiveText (profile : Profile) (env : Env) (cb : ControlBlock κ ρ) (text : Text)
    (segment : Accepted) : Checked (ControlBlock κ ρ) :=
  if text.offset = 0 then cb.receiveInOrder profile env segment
  else cb.receiveOutOfOrder profile env segment

/-- A segment that reaches the ACK section goes through it and on to its text. -/
theorem receive_reaches (profile : Profile) (env : Env) {cb : ControlBlock κ ρ} {header : TcpHeader}
    {data : Buffer} (settled : cb.Settled) (short : sequenceLength header data ≤ 2 ^ 31)
    (sound : ¬ cb.ClosedWindowFault profile header data) (reaches : cb.ReachesAck header data) :
    ∃ segment, cb.Inside segment (cb.textInWindow header data).offset ∧
      segment.header.syn = false ∧
      segment.data = (cb.textInWindow header data).bytes ∧
      segment.header.fin = (cb.textInWindow header data).fin ∧
      cb.receive profile env header data = (do
        let (acked, proceed) ← cb.processAck profile env header
        if !proceed then acked.sendAck profile env
        else acked.receiveText profile env (cb.textInWindow header data) segment) := by
  obtain ⟨acceptable, quiet, plain, acks⟩ := reaches
  obtain ⟨refused, -⟩ | ⟨-, segment, trims, passed⟩ := trimToWindow_cases profile settled short sound
  · exact absurd acceptable refused
  have synGone : segment.header.syn = false := passed.syn.trans plain
  have inside := passed.inside synGone
  have near := inside.near
  have small := settled.window_lt
  have rst : segment.header.rst = false := by rw [passed.flags]; exact quiet
  have ack : segment.header.ack = true := by rw [passed.flags]; exact acks
  have processes : cb.processAck profile env segment.header = cb.processAck profile env header := by
    rw [passed.flags]
    rfl
  have starts : segment.segStart = cb.receiver.receiveNext ↔
      (cb.textInWindow header data).offset = 0 := by
    rw [inside.start, ← SeqNumber.ahead_eq_zero, SeqNumber.ahead_advanced_of_lt _ (by omega)]
  refine ⟨segment, inside, synGone, passed.bytes synGone, passed.fin synGone, ?_⟩
  simp only [receive, trims, bind, Except.bind, rst, synGone, ack, processes, Bool.false_eq_true,
    Bool.not_true, if_false, ne_eq, starts, receiveText, ite_not]

/-- A segment that stops earlier is acknowledged or dropped, or resets the
connection. -/
theorem receive_stops (profile : Profile) (env : Env) {cb : ControlBlock κ ρ} {header : TcpHeader}
    {data : Buffer} (settled : cb.Settled) (short : sequenceLength header data ≤ 2 ^ 31)
    (sound : ¬ cb.ClosedWindowFault profile header data) (stops : ¬ cb.ReachesAck header data) :
    cb.receive profile env header data = cb.sendAck profile env ∨
    ∃ state statsEnabled, cb.receive profile env header data = .ok { cb with state, statsEnabled } ∧
      (state = cb.state ∨ state = .closed ∧ (header.rst = true ∨ header.syn = true)) := by
  obtain ⟨-, refused⟩ | ⟨acceptable, segment, trims, passed⟩ :=
    trimToWindow_cases profile settled short sound
  · simp only [receive, refused, bind, Except.bind]
    cases header.rst with
    | false => exact .inl rfl
    | true => exact .inr ⟨cb.state, cb.statsEnabled, rfl, .inl rfl⟩
  right
  have rst : segment.header.rst = header.rst := by rw [passed.flags]
  have ack : segment.header.ack = header.ack := by rw [passed.flags]
  simp only [receive, trims, bind, Except.bind, rst, passed.syn, ack]
  cases reset : header.rst with
  | true =>
    refine ⟨.closed, false, ?_, .inr ⟨rfl, .inl rfl⟩⟩
    simp only [if_true, receiveRst, disableStats]
    cases current : cb.state <;> simp [← current]
  | false =>
    cases syn : header.syn && !header.seqNum.lt cb.receiver.receiveNext with
    | true =>
      exact ⟨.closed, cb.statsEnabled, rfl, .inr ⟨rfl, .inr (Bool.and_eq_true_iff.mp syn).1⟩⟩
    | false =>
      cases acks : header.ack with
      | false => exact ⟨cb.state, cb.statsEnabled, rfl, .inl rfl⟩
      | true => exact absurd ⟨acceptable, reset, syn, acks⟩ stops

/-- What the text of a segment in the window can do, in the state `state` that
its acknowledgement has led to. -/
inductive TextOutcome (profile : Profile) (cb : ControlBlock κ ρ) (text : Text) (state : State)
    (cb' : ControlBlock κ ρ) : Prop where
  | ignored (nothing : text.length = 0 ∨ state.receivesData = false)
      (noFin : text.offset = 0 → text.fin = false)
      (reception : cb'.reception = cb.reception) (kept : cb'.state = state)
  | stored {store : List (SeqNumber × Buffer)} (later : 0 < text.offset)
      (occupied : 0 < text.length) (receives : state.receivesData = true)
      (inserts : cb.reception.storeText profile text = .ok store)
      (reception : cb'.reception = { cb.reception with
        outOfOrder := store
        outOfOrderFin := cb.reception.rememberFin text })
      (kept : cb'.state = state)
  | joined {front rest : List (SeqNumber × Buffer)} {fin : Bool} (inOrder : text.offset = 0)
      (bytes : text.bytes ≠ []) (receives : state.receivesData = true)
      (joins : cb.reception.Joins text front rest fin)
      (reception : cb'.reception = cb.reception.joined text.bytes front rest fin)
      (taken : FinTaken profile state fin cb')
  | finished (inOrder : text.offset = 0) (none : text.bytes = [] ∨ state.receivesData = false)
      (fin : text.fin = true)
      (reception : cb'.reception = cb.reception.pastFin)
      (taken : FinTaken profile state true cb')

omit [CongestionControl κ] [RtoCalculator ρ] in
/-- What a segment that reaches its text does beyond acknowledging. -/
theorem receiveText_ok {profile : Profile} {env : Env} {cb acked cb' : ControlBlock κ ρ}
    {text : Text} {segment : Accepted} (same : acked.reception = cb.reception)
    (inside : cb.Inside segment text.offset) (plain : segment.header.syn = false)
    (fits : text.bytes.length < 2 ^ 32)
    (bytes : segment.data = text.bytes) (fin : segment.header.fin = text.fin)
    (received : acked.receiveText profile env text segment = .ok cb') :
    ∃ acks, PureAcks acks ∧ TextOutcome profile cb text acked.state cb' ∧
      cb'.view = { acked.view with
        reception := cb'.reception
        state := cb'.state
        transmitted := acked.transmitted ++ acks } := by
  have receiver := receiver_eq same
  have quiet : PureAcks [] := by simp [PureAcks]
  have parts : segment.segLen = text.length := by
    rw [inside.length, sequenceLength, plain, bytes, fin]
    rfl
  unfold receiveText at received
  split at received
  · rename_i inOrder
    have starts : segment.segStart = acked.receiver.receiveNext := by
      rw [inside.start, inOrder, SeqNumber.advanced_zero, receiver]
    by_cases textual : text.bytes ≠ [] ∧ acked.state.receivesData = true
    · obtain ⟨some, receives⟩ := textual
      obtain ⟨joined, front, rest, taken, equation, joins, seen⟩ :=
        receiveInOrder_text profile env starts (by rw [bytes]; exact some) receives
      rw [equation] at received
      obtain ⟨acks, pure, finTaken, after⟩ := joined_ok seen received
      rw [same, bytes] at after
      rw [same, bytes, fin] at joins
      have reception : cb'.reception = cb.reception.joined text.bytes front rest taken :=
        congrArg View.reception after
      refine ⟨acks, pure, ?_, by rw [after, ← reception]⟩
      exact .joined inOrder some receives ⟨joins.store, joins.laid, joins.stops, joins.fin⟩
        reception finTaken
    · have none : text.bytes = [] ∨ acked.state.receivesData = false := by
        rw [← Bool.not_eq_true]
        exact Decidable.not_and_iff_not_or_not.mp textual |>.imp_left Decidable.not_not.mp
      rw [receiveInOrder_no_text profile env (by rw [bytes]; exact none), fin] at received
      cases finFlag : text.fin with
      | true =>
        rw [finFlag] at received
        obtain ⟨acks, pure, taken, after⟩ := receiveFin_ok received
        rw [same] at after
        have reception : cb'.reception = cb.reception.pastFin := congrArg View.reception after
        refine ⟨acks, pure, .finished inOrder none finFlag reception taken, ?_⟩
        rw [reception]
        exact after
      | false =>
        rw [finFlag] at received
        cases received
        refine ⟨[], quiet, .ignored ?_ (fun _ => finFlag) same rfl, by simp [view]⟩
        exact none.imp_left fun empty => by rw [Text.length, empty, finFlag]; rfl
  · rename_i later
    by_cases stores : 0 < text.length ∧ acked.state.receivesData = true
    · obtain ⟨occupied, receives⟩ := stores
      have inside' : acked.Inside segment text.offset := inside_of_eq same inside
      rw [receiveOutOfOrder_text profile env inside' plain (by rw [bytes]; exact fits)
        (by rw [parts]; exact occupied) receives, bytes, fin] at received
      obtain ⟨store, inserts, received⟩ := bind_ok.mp received
      rw [same] at inserts
      obtain ⟨-, acks, pure, after⟩ := sendAck_ok received
      have reception : cb'.reception = { cb.reception with
          outOfOrder := store
          outOfOrderFin := cb.reception.rememberFin text } := by
        rw [← same]
        exact congrArg View.reception after
      have state : cb'.state = acked.state := congrArg View.state after
      refine ⟨acks, pure, .stored (by omega) occupied receives inserts reception state, ?_⟩
      rw [reception, state, ← same]
      exact after
    · have idle : (decide (segment.segLen > 0) && acked.state.receivesData) = false := by
        rw [parts]
        simpa using stores
      simp only [receiveOutOfOrder, idle, Bool.false_eq_true, if_false] at received
      cases received
      refine ⟨[], quiet, .ignored ?_ (fun front => absurd front later) same rfl, by simp [view]⟩
      rw [← Bool.not_eq_true]
      exact Decidable.not_and_iff_not_or_not.mp stores |>.imp_left Nat.eq_zero_of_not_pos

/-- All that a successful `receive` can do. -/
structure Received (profile : Profile) (now : Instant) (cb : ControlBlock κ ρ) (header : TcpHeader)
    (data : Buffer) (cb' : ControlBlock κ ρ) : Prop where
  done : cb'.userIsDoneSending = cb.userIsDoneSending
  acks : ∃ acks, PureAcks acks ∧ cb'.transmitted = cb.transmitted ++ acks
  sender : if cb.ReachesAck header data then cb.SenderAfterAck profile now header cb'.sender
    else cb'.sender = cb.sender
  text : if cb.ReachesText header data then
      TextOutcome profile cb (cb.textInWindow header data) (cb.stateAfterAck header) cb'
    else cb'.reception = cb.reception ∧ (cb'.state = cb.state ∨
      cb'.state = .closed ∧ (header.rst = true ∨ header.syn = true))

/-- The inversion of `receive`. -/
theorem receive_cases {profile : Profile} {env : Env} {cb cb' : ControlBlock κ ρ}
    {header : TcpHeader} {data : Buffer} (settled : cb.Settled)
    (short : sequenceLength header data ≤ 2 ^ 31)
    (received : cb.receive profile env header data = .ok cb') :
    cb.Received profile env.now header data cb' := by
  have sound : ¬ cb.ClosedWindowFault profile header data := by
    intro failing
    obtain ⟨fault, -, fails⟩ := trimToWindow_fault profile settled short failing
    rw [receive, fails] at received
    cases received
  by_cases reaches : cb.ReachesAck header data
  · obtain ⟨segment, inside, plain, bytes, fin, equation⟩ :=
      receive_reaches profile env settled short sound reaches
    rw [equation] at received
    obtain ⟨⟨acked, proceed⟩, processed, received⟩ := bind_ok.mp received
    obtain ⟨rfl, sender, seen⟩ := processAck_ok processed
    have same : acked.reception = cb.reception := congrArg View.reception seen
    have transmitted : acked.transmitted = cb.transmitted := congrArg View.transmitted seen
    have state : acked.state = cb.stateAfterAck header := congrArg View.state seen
    have done : acked.userIsDoneSending = cb.userIsDoneSending :=
      congrArg View.userIsDoneSending seen
    cases unsent : cb.sender.acksUnsent header with
    | true =>
      rw [unsent] at received
      obtain ⟨-, acks, pure, after⟩ := sendAck_ok received
      have stays : cb.stateAfterAck header = cb.state := by
        have old : cb.sender.acksNew header = false := by
          simp only [Sender.acksUnsent, Bool.and_eq_true, Bool.not_eq_true'] at unsent
          simp [Sender.acksNew, unsent]
        simp [stateAfterAck, old]
      refine ⟨(congrArg View.userIsDoneSending after).trans done,
        ⟨acks, pure, (congrArg View.transmitted after).trans (by rw [transmitted])⟩, ?_, ?_⟩
      · rw [if_pos reaches, show cb'.sender = acked.sender from congrArg View.sender after]
        exact sender
      · rw [if_neg fun further => by rw [ReachesText, unsent] at further; cases further.2]
        exact ⟨(congrArg View.reception after).trans same,
          .inl ((congrArg View.state after).trans (state.trans stays))⟩
    | false =>
      rw [unsent] at received
      have fits : (cb.textInWindow header data).bytes.length < 2 ^ 32 := by
        have window := settled.window_lt
        simp only [textInWindow, List.length_take]
        omega
      obtain ⟨acks, pure, outcome, after⟩ :=
        receiveText_ok same inside plain fits bytes fin received
      rw [state] at outcome
      refine ⟨(congrArg View.userIsDoneSending after).trans done,
        ⟨acks, pure, (congrArg View.transmitted after).trans (by rw [transmitted])⟩, ?_, ?_⟩
      · rw [if_pos reaches, show cb'.sender = acked.sender from congrArg View.sender after]
        exact sender
      · rw [if_pos ⟨reaches, unsent⟩]
        exact outcome
  · have stopped : ¬ cb.ReachesText header data := fun further => reaches further.1
    obtain acknowledges | ⟨state, stats, result, kind⟩ :=
      receive_stops profile env settled short sound reaches
    · rw [acknowledges] at received
      obtain ⟨-, acks, pure, after⟩ := sendAck_ok received
      refine ⟨congrArg View.userIsDoneSending after, ⟨acks, pure, congrArg View.transmitted after⟩,
        ?_, ?_⟩
      · rw [if_neg reaches]
        exact congrArg View.sender after
      · rw [if_neg stopped]
        exact ⟨congrArg View.reception after, .inl (congrArg View.state after)⟩
    · cases result.symm.trans received
      refine ⟨rfl, ⟨[], by simp [PureAcks], by simp⟩, ?_, ?_⟩
      · rw [if_neg reaches]
      · rw [if_neg stopped]
        exact ⟨rfl, kind⟩

end ControlBlock

end Capybara
