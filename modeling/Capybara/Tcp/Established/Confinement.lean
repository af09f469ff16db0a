import Capybara.Tcp.Established.Connection

/-!
# A connection keeps to itself

Whatever happens to an established connection, its addresses stay what they are,
and where it panics it is for a reason of its own and not because of the tables of
the server that holds it. Its received data and the waker of its reader stay as they
are too, except when data arrives: then the reader is woken. All of this is shown
together, routine by routine.
-/

namespace Capybara

/-- The panics by which a server notices that its tables disagree. -/
def Fault.ofTables : Fault → Bool
  | .socketsLocalInconsistency | .duplicateQdsEntry | .noQdsEntry
  | .socketsEstablishedInconsistency | .noQdFoundForConnection => true
  | _ => false

variable {κ ρ : Type}

namespace ControlBlock

/-- `EstablishedSocket::endpoints`. -/
def endpoints (cb : ControlBlock κ ρ) : SocketAddrV4 × SocketAddrV4 := (cb.localAddr, cb.remote)

/-- A computation that leaves the addresses of a connection alone. -/
abbrev Confines (cb : ControlBlock κ ρ) (computation : Checked (ControlBlock κ ρ)) : Prop :=
  Ensures Fault.ofTables (fun cb' => cb'.endpoints = cb.endpoints) computation

/-- The addresses of a connection, what it holds for its readers and whom it wakes. -/
def resting (cb : ControlBlock κ ρ) :
    (SocketAddrV4 × SocketAddrV4) × List Buffer × Option Waker × List Waker :=
  (cb.endpoints, cb.receiver.recvQueue, cb.waker, cb.woken)

/-- A computation that leaves all of this alone. -/
abbrev Rests (cb : ControlBlock κ ρ) (computation : Checked (ControlBlock κ ρ)) : Prop :=
  Ensures Fault.ofTables (fun cb' => cb'.resting = cb.resting) computation

/-- The same for a computation that also returns something else. -/
abbrev RestsWith {α : Type} (cb : ControlBlock κ ρ) (computation : Checked (ControlBlock κ ρ × α)) :
    Prop :=
  Ensures Fault.ofTables (fun result => result.1.resting = cb.resting) computation

/-- Only these parts matter. -/
theorem Rests.of_eq {cb other : ControlBlock κ ρ} {computation : Checked (ControlBlock κ ρ)}
    (rests : other.Rests computation) (same : other.resting = cb.resting) :
    cb.Rests computation :=
  ⟨rests.avoids, fun after returned => (rests.returns after returned).trans same⟩

/-- Data has arrived for the readers, and the one that waits has been woken. -/
structure Served (cb cb' : ControlBlock κ ρ) : Prop where
  endpoints : cb'.endpoints = cb.endpoints
  waker : cb'.waker = none
  woken : cb'.woken = cb.woken ++ cb.waker.toList

/-- What anything but a read does for the readers. -/
def Serves (cb cb' : ControlBlock κ ρ) : Prop := cb'.resting = cb.resting ∨ cb.Served cb'

/-- A call that serves its connection leaves it the same connection: both addresses stay. -/
theorem Serves.endpoints {cb cb' : ControlBlock κ ρ} (serves : cb.Serves cb') :
    cb'.endpoints = cb.endpoints := by
  obtain rests | served := serves
  · exact congrArg Prod.fst rests
  · exact served.endpoints

/-- Nothing more happens to the readers after that. -/
theorem Serves.rests {cb other cb' : ControlBlock κ ρ} (serves : cb.Serves other)
    (rests : cb'.resting = other.resting) : cb.Serves cb' := by
  obtain same | served := serves
  · exact .inl (rests.trans same)
  · obtain ⟨endpoints, inner⟩ := Prod.mk.inj rests
    obtain ⟨-, inner⟩ := Prod.mk.inj inner
    obtain ⟨waker, woken⟩ := Prod.mk.inj inner
    exact .inr ⟨endpoints.trans served.endpoints, waker.trans served.waker, woken.trans served.woken⟩

/-- Nothing happened to the readers before that. -/
theorem Serves.of_rests {cb other cb' : ControlBlock κ ρ} (serves : other.Serves cb')
    (rests : other.resting = cb.resting) : cb.Serves cb' := by
  obtain ⟨endpoints, inner⟩ := Prod.mk.inj rests
  obtain ⟨-, inner⟩ := Prod.mk.inj inner
  obtain ⟨waker, woken⟩ := Prod.mk.inj inner
  obtain same | served := serves
  · exact .inl (same.trans rests)
  · refine .inr ⟨served.endpoints.trans endpoints, served.waker, ?_⟩
    rw [served.woken, woken, waker]

variable (profile : Profile) (env : Env) (cb : ControlBlock κ ρ)

/-! ## Building and sending segments -/

/-- Computing the receive window has no fault of the tables. -/
theorem getReceiveWindowSize_local : Avoids Fault.ofTables (cb.getReceiveWindowSize profile) := by
  intro fault failed
  unfold getReceiveWindowSize at failed
  dsimp only at failed
  cases size : subU32 profile cb.receiveBufferSize.toNat
      (cb.receiver.receiveNext - cb.receiver.readerNext).toU32 with
  | ok value =>
    rw [size] at failed
    cases failed
  | error earlier =>
    rw [size] at failed
    cases failed
    rfl

/-- Filling in a header has no fault of the tables. -/
theorem tcpHeader_local : Avoids Fault.ofTables (cb.tcpHeader profile) := by
  refine .bind (.bind (cb.getReceiveWindowSize_local profile) fun _ _ =>
    .bind (.shrU32 profile _ _ rfl) fun _ _ => ?_) fun _ _ => .ok _
  split
  · exact .ok _
  · exact .error rfl

/-- A segment that is sent changes nothing that the application waits on. -/
theorem emit_rests (header : TcpHeader) (body : Option Buffer) (remoteLinkAddr : MacAddress) :
    cb.Rests (cb.emit profile header body remoteLinkAddr) :=
  .after (.debugAssert profile _ rfl) fun _ => .ok rfl

/-- An acknowledgement changes nothing that the application waits on. -/
theorem sendAck_rests : cb.Rests (cb.sendAck profile env) := by
  refine .after (cb.tcpHeader_local profile) fun header => ?_
  split
  · exact emit_rests profile cb _ _ _
  · exact .ok rfl

/-- A retransmission changes nothing that the application waits on. -/
theorem retransmit_rests : cb.Rests (cb.retransmit profile env) := by
  unfold retransmit
  split
  · exact .ok rfl
  dsimp only
  split
  · exact .ok rfl
  · refine .after (tcpHeader_local profile _) fun header => ?_
    exact Rests.of_eq (emit_rests profile _ _ _ _) rfl

variable [CongestionControl κ] [RtoCalculator ρ]

/-- Data that is sent at once changes nothing that the application waits on. -/
theorem sendImmediate_rests (buf : Buffer) (remoteLinkAddr : MacAddress) :
    cb.Rests (cb.sendImmediate profile env buf remoteLinkAddr) := by
  unfold sendImmediate
  dsimp only
  refine .after (tcpHeader_local profile _) fun header => ?_
  refine .bind (emit_rests profile { cb with cc := _ } _ _ _) fun emitted same => ?_
  exact .ok same

omit [CongestionControl κ] [RtoCalculator ρ] in
/-- Data that is queued changes nothing that the application waits on. -/
theorem queueUnsent_resting (buf : Buffer) : (cb.queueUnsent buf).1.resting = cb.resting := by
  unfold queueUnsent
  split <;> rfl

/-- A send changes nothing that a pop waits on, whichever path it takes. -/
theorem send_rests (buf : Buffer) : cb.RestsWith (cb.send profile env buf) := by
  unfold send
  split
  · exact .ok rfl
  split
  · exact .ok rfl
  split
  · exact .ok (cb.queueUnsent_resting buf)
  refine .after (.addU32 profile _ _ rfl) fun inFlight => ?_
  refine .after (.addU32 profile _ _ rfl) fun effectiveCwnd => ?_
  have queues := queueUnsent_resting
    { cb with cc := CongestionControl.onCwndCheckBeforeSend env.now cb.cc } buf
  dsimp only
  split
  · split
    · refine .bind (sendImmediate_rests profile env { cb with cc := _ } buf _) fun sent same => ?_
      exact .ok same
    · exact .ok queues
  · exact .ok queues

/-- A close changes nothing that a pop waits on. -/
theorem close_rests : cb.Rests (cb.close profile env) := by
  unfold close
  split
  · exact .ok rfl
  refine .after (.debugAssert profile _ rfl) fun _ => ?_
  refine .bind (send_rests profile env cb.disableStats []) fun sent same => ?_
  obtain ⟨after, result⟩ := sent
  cases result with
  | error fail => exact .error rfl
  | ok => exact .ok same

/-! ## Receiving -/

omit [CongestionControl κ] [RtoCalculator ρ] in
/-- Cutting a segment in front of the window has no fault of the tables. -/
theorem trimFront_local (segment : Accepted) (receiveNext afterReceiveWindow : SeqNumber) :
    Avoids Fault.ofTables (trimFront profile segment receiveNext afterReceiveWindow) := by
  unfold trimFront
  split
  · exact .ok _
  split
  · split
    · exact .ok _
    · refine .bind (.subU32 profile _ _ rfl) fun segLen _ => .bind ?_ fun nbytes _ =>
        .bind (Buffer.adjust_avoids _ _ rfl) fun _ _ => .ok _
      split
      · exact .subU32 profile _ _ rfl
      · exact .ok _
  split
  · exact .ok _
  · exact .ok _

omit [CongestionControl κ] [RtoCalculator ρ] in
/-- Cutting a segment behind the window has no fault of the tables. -/
theorem trimEnd_local (segment : Accepted) (afterReceiveWindow : SeqNumber) :
    Avoids Fault.ofTables (trimEnd profile segment afterReceiveWindow) := by
  unfold trimEnd
  split
  · refine .bind (.addU32 profile _ _ rfl) fun excess _ => .bind (.subU32 profile _ _ rfl)
      fun segLen _ => .bind ?_ fun nbytes _ => .bind (Buffer.trim_avoids _ _ rfl) fun _ _ => .ok _
    split
    · exact .subU32 profile _ _ rfl
    · exact .ok _
  · exact .ok _

omit [CongestionControl κ] [RtoCalculator ρ] in
/-- Cutting a segment to the window has no fault of the tables. -/
theorem trimToWindow_local (header : TcpHeader) (data : Buffer) :
    Avoids Fault.ofTables (cb.trimToWindow profile header data) := by
  unfold trimToWindow
  refine .bind ?_ fun segLen _ => .bind ?_ fun segLen _ =>
    .bind (cb.getReceiveWindowSize_local profile) fun windowSize _ =>
    .bind (trimFront_local profile _ _ _) fun front _ => ?_
  · split
    · exact .addU32 profile _ _ rfl
    · exact .ok _
  · split
    · exact .addU32 profile _ _ rfl
    · exact .ok _
  cases front with
  | none => exact .ok _
  | some segment =>
    exact .bind (trimEnd_local profile _ _) fun _ _ =>
      .bind (.debugAssert profile _ rfl) fun _ _ => .ok _

omit [CongestionControl κ] in
/-- Taking acknowledged segments off the queue may find less than was acknowledged, which is no
fault of the tables. By induction on the queue. -/
theorem removeAcknowledged_local (now : Instant) (queue : List UnackedSegment)
    (bytesRemaining : Nat) (rto : ρ) :
    Avoids Fault.ofTables (Sender.removeAcknowledged profile now queue bytesRemaining rto) := by
  induction queue generalizing bytesRemaining rto with
  | nil =>
    unfold Sender.removeAcknowledged
    split
    · exact .ok _
    split
    · exact .error rfl
    · exact .error rfl
  | cons segment rest inductionHypothesis =>
    unfold Sender.removeAcknowledged
    split
    · exact .ok _
    dsimp only
    split
    · exact .bind (Buffer.adjust_avoids _ _ rfl) fun _ _ => .ok _
    split
    · exact .bind (.debugAssert profile _ rfl) fun _ _ => .ok _
    · exact inductionHypothesis _ _

omit [CongestionControl κ] [RtoCalculator ρ] in
/-- Taking the window of the peer has no fault of the tables. -/
theorem updateSendWindow_local (sender : Sender) (header : TcpHeader) :
    Avoids Fault.ofTables (sender.updateSendWindow profile header) := by
  unfold Sender.updateSendWindow
  split
  · exact .bind (.shlU32 profile _ _ rfl) fun _ _ => .ok _
  · exact .ok _

/-- An acknowledgement that arrives changes nothing that a pop waits on. -/
theorem processAck_rests (header : TcpHeader) :
    cb.RestsWith (cb.processAck profile env header) := by
  unfold processAck
  dsimp only
  split
  · split
    · refine .after (removeAcknowledged_local profile _ _ _ _) fun removed => ?_
      refine .after (updateSendWindow_local profile _ header) fun sender => ?_
      split
      · exact .ok rfl
      · exact .ok rfl
    · exact .ok rfl
  · exact .ok rfl

omit [CongestionControl κ] [RtoCalculator ρ] in
/-- A pass over the out-of-order store has no fault of the tables. -/
theorem pass_local (total : Nat) (store : List (SeqNumber × Buffer)) (index : Nat)
    (segment : OutOfOrder.NewSegment) :
    Avoids Fault.ofTables (OutOfOrder.pass profile total store index segment) := by
  induction store generalizing index segment with
  | nil => exact .ok _
  | cons stored rest inductionHypothesis =>
    obtain ⟨storedStart, buffer⟩ := stored
    unfold OutOfOrder.pass
    refine .bind (.debugAssert profile _ rfl) fun _ _ => .bind (.subU32 profile _ _ rfl) fun last _ => ?_
    dsimp only
    split
    · split
      · exact .ok _
      split
      · exact .ok _
      · exact .bind (.addU32 profile _ _ rfl) fun _ _ =>
          .bind (Buffer.trim_avoids _ _ rfl) fun _ _ => .ok _
    split
    · exact .ok _
    split
    · exact inductionHypothesis _ _
    · exact .bind (Buffer.adjust_avoids _ _ rfl) fun _ _ => inductionHypothesis _ _

omit [CongestionControl κ] [RtoCalculator ρ] in
/-- Nor have all its passes, by induction on their number. -/
theorem insertPasses_local (passes : Nat) (store : List (SeqNumber × Buffer))
    (segment : OutOfOrder.NewSegment) :
    Avoids Fault.ofTables (OutOfOrder.insertPasses profile passes store segment) := by
  induction passes generalizing store segment with
  | zero => exact .ok _
  | succ passes inductionHypothesis =>
    refine .bind (pass_local profile _ _ _ _) fun result _ => ?_
    cases result with
    | duplicate => exact .ok _
    | encompassed index segment => exact inductionHypothesis _ _
    | insert index segment => exact .ok _

omit [CongestionControl κ] [RtoCalculator ρ] in
/-- A segment that is stored changes nothing that a pop waits on. -/
theorem storeOutOfOrderSegment_rests (newStart newEnd : SeqNumber) (buf : Buffer) :
    cb.Rests (cb.storeOutOfOrderSegment profile newStart newEnd buf) :=
  .after (insertPasses_local profile _ _ _) fun _ => .ok rfl

omit [CongestionControl κ] [RtoCalculator ρ] in
/-- A segment that is not the next one changes nothing that a pop waits on. -/
theorem receiveOutOfOrder_rests (segment : Accepted) :
    cb.Rests (cb.receiveOutOfOrder profile env segment) := by
  unfold receiveOutOfOrder
  split
  · have remembers : cb.RestsWith (
        if segment.header.fin then do
          let segLen ← subU32 profile segment.segLen 1
          .ok ({ cb with outOfOrderFin := some segment.segEnd }, segLen,
            segment.segEnd - SeqNumber.ofU32 1)
        else .ok (cb, segment.segLen, segment.segEnd)) := by
      split
      · exact .after (.subU32 profile _ _ rfl) fun _ => .ok rfl
      · exact .ok rfl
    refine .bind remembers fun remembered same => ?_
    obtain ⟨remembering, segLen, segEnd⟩ := remembered
    refine .after (.debugAssert profile _ rfl) fun _ => ?_
    have stores : remembering.Rests (
        if segLen > 0 then
          remembering.storeOutOfOrderSegment profile segment.segStart segEnd segment.data
        else .ok remembering) := by
      split
      · exact storeOutOfOrderSegment_rests profile _ _ _ _
      · exact .ok rfl
    refine .bind stores fun stored still => ?_
    exact Rests.of_eq (sendAck_rests profile env stored) (still.trans same)
  · exact .ok rfl

omit [CongestionControl κ] [RtoCalculator ρ] in
/-- A FIN that is taken changes nothing that a pop waits on; it does not wake it either. -/
theorem receiveFin_rests : cb.Rests (cb.receiveFin profile env) := by
  unfold receiveFin
  dsimp only
  split
  · exact .error rfl
  · exact Rests.of_eq (sendAck_rests profile env _) rfl

omit [CongestionControl κ] [RtoCalculator ρ] in
/-- A delayed acknowledgement changes nothing that a pop waits on. -/
theorem scheduleAck_rests : cb.Rests (cb.scheduleAck profile env) := by
  unfold scheduleAck
  split
  · exact .ok rfl
  · exact Rests.of_eq (sendAck_rests profile env _) rfl

omit [CongestionControl κ] [RtoCalculator ρ] in
/-- After text has joined the received data, only the FIN and the acknowledgement are left. -/
theorem Serves.after {cb other : ControlBlock κ ρ} {computation : Checked (ControlBlock κ ρ)}
    (serves : cb.Serves other) (rests : other.Rests computation) :
    Ensures Fault.ofTables cb.Serves computation :=
  ⟨rests.avoids, fun after returned => serves.rests (rests.returns after returned)⟩

omit [CongestionControl κ] [RtoCalculator ρ] in
/-- The next segment brings data and wakes the pop in the slot, or changes nothing that a pop
waits on. -/
theorem receiveInOrder_serves (segment : Accepted) :
    Ensures Fault.ofTables cb.Serves (cb.receiveInOrder profile env segment) := by
  unfold receiveInOrder
  dsimp only
  refine .bind (?reads : Ensures Fault.ofTables (fun result => cb.Serves result.1) _)
    fun result serves => ?_
  case reads =>
    split
    · have joins : Ensures Fault.ofTables (fun result => cb.Serves result.1)
          (cb.receiveData profile segment.segStart segment.data) :=
        .after (.debugAssert profile _ rfl) fun _ => .ok (.inr ⟨rfl, rfl, rfl⟩)
      refine .bind joins fun result serves => ?_
      exact .ok serves
    · exact .ok (.inl rfl)
  obtain ⟨after, fin⟩ := result
  dsimp only at serves ⊢
  split
  · exact serves.after (receiveFin_rests profile env after)
  split
  · exact serves.after (scheduleAck_rests profile env after)
  · exact .ok serves

/-- A segment that arrives brings data and wakes the pop in the slot, or changes nothing that a
pop waits on. Its faults are those of the connection. -/
theorem receive_serves (header : TcpHeader) (data : Buffer) :
    Ensures Fault.ofTables cb.Serves (cb.receive profile env header data) := by
  unfold receive
  refine .after (cb.trimToWindow_local profile header data) fun trimmed => ?_
  cases trimmed with
  | none =>
    dsimp only
    split
    · exact .ok (.inl rfl)
    · exact Serves.after (.inl rfl) (sendAck_rests profile env cb)
  | some segment =>
    dsimp only
    split
    · unfold receiveRst
      split <;> exact .ok (.inl rfl)
    split
    · exact .ok (.inl rfl)
    split
    · exact .ok (.inl rfl)
    refine .bind (processAck_rests profile env cb segment.header) fun result same => ?_
    obtain ⟨acked, proceed⟩ := result
    dsimp only
    split
    · exact Serves.after (.inl same) (sendAck_rests profile env acked)
    split
    · exact Serves.after (.inl same) (receiveOutOfOrder_rests profile env acked segment)
    · have serves := receiveInOrder_serves profile env acked segment
      exact ⟨serves.avoids, fun after returned => (serves.returns after returned).of_rests same⟩

/-- A segment that arrives changes one connection, and leaves it the same connection. -/
theorem receive_confines (header : TcpHeader) (data : Buffer) :
    cb.Confines (cb.receive profile env header data) :=
  ⟨(receive_serves profile env cb header data).avoids, fun after returned =>
    ((receive_serves profile env cb header data).returns after returned).endpoints⟩

/-- A round of the retransmitter changes nothing that a pop waits on. -/
theorem retransmitterRound_rests : cb.Rests (cb.retransmitterRound profile env) := by
  unfold retransmitterRound
  split
  · exact Rests.of_eq (retransmit_rests profile env _) rfl
  split
  · exact .ok rfl
  split
  · exact .ok rfl
  dsimp only
  refine .bind (retransmit_rests profile env { cb with cc := _ }) fun after same => ?_
  exact .ok same

omit [CongestionControl κ] [RtoCalculator ρ] in
/-- A round of the acknowledger changes nothing that a pop waits on. -/
theorem acknowledgerRound_rests : cb.Rests (cb.acknowledgerRound profile env) := by
  unfold acknowledgerRound
  split
  · exact .ok rfl
  split
  · exact .ok rfl
  refine .bind (sendAck_rests profile env cb) fun after same => ?_
  split
  · exact .error rfl
  · exact .ok same

end ControlBlock

/-! ## The sending coroutine -/

namespace SenderTask

open ControlBlock

variable [CongestionControl κ] [RtoCalculator ρ]
variable (profile : Profile) (env : Env) (cb : ControlBlock κ ρ)

/-- The coroutine leaves the addresses alone as well. -/
abbrev Rests (cb : ControlBlock κ ρ) (computation : Checked (SenderTask × ControlBlock κ ρ)) :
    Prop :=
  Ensures Fault.ofTables (fun result => result.2.resting = cb.resting) computation

omit [CongestionControl κ] [RtoCalculator ρ] in
/-- What a computation changes may be seen from any control block that a pop cannot tell from
the first one. -/
theorem Rests.of_eq {cb other : ControlBlock κ ρ}
    {computation : Checked (SenderTask × ControlBlock κ ρ)} (rests : Rests other computation)
    (same : other.resting = cb.resting) : Rests cb computation :=
  ⟨rests.avoids, fun after returned => (rests.returns after returned).trans same⟩

omit [CongestionControl κ] [RtoCalculator ρ] in
/-- A probe changes nothing that a pop waits on. -/
theorem sendProbe_rests (sendNext : SeqNumber) (remoteLinkAddr : MacAddress) :
    Rests cb (sendProbe profile env cb sendNext remoteLinkAddr) := by
  unfold sendProbe
  have pops : Avoids Fault.ofTables (Sender.popOneUnsentByte cb.sender.unsentQueue) := by
    cases cb.sender.unsentQueue with
    | nil => exact .ok _
    | cons front rest =>
      exact .bind (Buffer.adjust_avoids _ _ rfl) fun _ _ =>
        .bind (Buffer.trim_avoids _ _ rfl) fun _ _ => .ok _
  refine .after pops fun popped => ?_
  cases popped with
  | none => exact .error rfl
  | some taken =>
    refine .after (tcpHeader_local profile _) fun header => ?_
    refine .bind (emit_rests profile { cb with sender := _ } _ _ _) fun after same => ?_
    exact .ok same

/-- A segment of the coroutine changes nothing that a pop waits on. -/
theorem sendSegment_rests (sendNext : SeqNumber) (winSz sentData effectiveCwnd : Nat)
    (remoteLinkAddr : MacAddress) : Rests cb
      (sendSegment profile env cb sendNext winSz sentData effectiveCwnd remoteLinkAddr) := by
  unfold sendSegment
  refine .after (.subU32 profile _ _ rfl) fun windowRoom => ?_
  refine .after (.subU32 profile _ _ rfl) fun cwndRoom => ?_
  dsimp only
  generalize min (min windowRoom cb.sender.mss) cwndRoom = maxSize
  have pops : Avoids Fault.ofTables (Sender.popUnsent maxSize cb.sender.unsentQueue) := by
    cases cb.sender.unsentQueue with
    | nil => exact .ok _
    | cons front rest =>
      simp only [Sender.popUnsent]
      split
      · exact .bind (Buffer.adjust_avoids _ _ rfl) fun _ _ =>
          .bind (Buffer.trim_avoids _ _ rfl) fun _ _ => .ok _
      · exact .ok _
  refine .after pops fun popped => ?_
  cases popped with
  | none => exact .error rfl
  | some taken =>
    refine .after (tcpHeader_local profile _) fun header => ?_
    refine .after (.debugAssert profile _ rfl) fun _ => ?_
    refine .bind (emit_rests profile { cb with sender := _, cc := _ } _ _ _) fun after same => ?_
    exact .ok same

/-- A turn of the sender from its top changes nothing that a pop waits on. -/
theorem fromTop_rests (reply : ArpReply) : Rests cb (fromTop profile env reply cb) := by
  unfold fromTop
  dsimp only
  split
  · exact .ok rfl
  split
  · cases reply with
    | pending => exact .ok rfl
    | failed => exact .ok rfl
    | resolved remoteLinkAddr => exact sendProbe_rests profile env cb _ _
  refine .after (.addU32 profile _ _ rfl) fun effectiveCwnd => ?_
  split
  · exact .error rfl
  refine .after (.addU32 profile _ _ rfl) fun needed => ?_
  split
  · exact .ok rfl
  cases reply with
  | pending => exact .ok rfl
  | failed => exact .ok rfl
  | resolved remoteLinkAddr => exact Rests.of_eq (sendSegment_rests profile env _ _ _ _ _ _) rfl

/-- A round of the sender changes nothing that a pop waits on, wherever the coroutine waits. -/
theorem round_rests (reply : ArpReply) (task : SenderTask) :
    Rests cb (task.round profile env reply cb) := by
  cases task with
  | top => exact fromTop_rests profile env cb reply
  | idle unsentSeqChanges sendNextChanges =>
    simp only [round]
    split <;> exact .ok rfl
  | queryProbe sendNext =>
    cases reply with
    | pending => exact .ok rfl
    | failed => exact .ok rfl
    | resolved remoteLinkAddr => exact sendProbe_rests profile env cb _ _
  | persist sendNext buf remoteLinkAddr windowChanges timeout deadline =>
    simp only [round]
    split
    · exact .ok rfl
    split
    · exact .ok rfl
    refine .after (tcpHeader_local profile _) fun header => ?_
    refine .bind (emit_rests profile cb _ _ _) fun after same => ?_
    exact .ok same
  | blocked sendUnackedChanges sendNextChanges windowChanges cwndChanges ltciChanges =>
    simp only [round]
    split <;> exact .ok rfl
  | querySend sendNext winSz sentData effectiveCwnd =>
    cases reply with
    | pending => exact .ok rfl
    | failed => exact .ok rfl
    | resolved remoteLinkAddr => exact sendSegment_rests profile env cb _ _ _ _ _
  | returned => exact .ok rfl

end SenderTask

/-- A round of the background coroutines keeps what it keeps while they run. -/
theorem Connection.backgroundRound_rests {c : Connection κ ρ}
    {round : ControlBlock κ ρ → Checked (ControlBlock κ ρ)} (rests : c.cb.Rests (round c.cb)) :
    c.cb.Rests (c.backgroundRound round) := by
  unfold backgroundRound
  split
  · exact .ok rfl
  · exact rests

/-- What a step that is not a read does for the readers. -/
theorem Connection.step_serves [CongestionControl κ] [RtoCalculator ρ] (profile : Profile)
    (c : Connection κ ρ) (action : Action) (other : ∀ waker, action ≠ .pollRecv waker) :
    Ensures Fault.ofTables (fun c' => c.cb.Serves c'.cb) (c.step profile action) := by
  cases action with
  | receive env header data =>
    refine .bind (c.cb.receive_serves profile env header data) fun cb serves => ?_
    exact .ok serves
  | pollRecv waker => exact absurd rfl (other waker)
  | send env buf =>
    refine .bind (c.cb.send_rests profile env buf) fun result same => ?_
    exact .ok (.inl same)
  | close env =>
    refine .bind (c.cb.close_rests profile env) fun cb same => ?_
    exact .ok (.inl same)
  | senderRound env reply =>
    refine .bind (c.task.round_rests profile env c.cb reply) fun result same => ?_
    exact .ok (.inl same)
  | retransmitterRound env =>
    refine .bind (backgroundRound_rests (c.cb.retransmitterRound_rests profile env))
      fun cb same => ?_
    exact .ok (.inl same)
  | acknowledgerRound env =>
    refine .bind (backgroundRound_rests (c.cb.acknowledgerRound_rests profile env))
      fun cb same => ?_
    exact .ok (.inl same)

/-- A step of an established connection keeps its addresses and panics only for
reasons of its own. -/
theorem Connection.step_confines [CongestionControl κ] [RtoCalculator ρ] (profile : Profile)
    (c : Connection κ ρ) (action : Action) :
    Ensures Fault.ofTables (fun c' => c'.cb.endpoints = c.cb.endpoints) (c.step profile action) := by
  by_cases reads : ∃ waker, action = .pollRecv waker
  · obtain ⟨waker, rfl⟩ := reads
    refine .ok ?_
    unfold ControlBlock.pollRecv
    split <;> rfl
  · have serves := c.step_serves profile action (not_exists.mp reads)
    exact ⟨serves.avoids, fun after returned => (serves.returns after returned).endpoints⟩

end Capybara
