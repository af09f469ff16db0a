import Capybara.Tcp.Established.SendWindow

/-!
# Which segments update the peer's window

`Sender::update_send_window` takes the window of a segment that is newer than the last
one it took a window from, and remembers the numbers of the segment. Two things stand in
the way. The remembered numbers begin as our own initial sequence number, which says
nothing about the numbers of the peer, and the routine is called only for a segment
that acknowledges new data.

The last update is a function of the recorded run. Once there has been one the sender
remembers its numbers, and from then on only duplicate acknowledgements are lost.
-/

namespace Capybara

variable {κ ρ : Type}

/-- The sequence number and the acknowledgement number of a segment. -/
abbrev UpdateNumbers := SeqNumber × SeqNumber

/-- The segment is newer than the one with the given numbers, or that one again. -/
def TcpHeader.newerThan (header : TcpHeader) (last : UpdateNumbers) : Bool :=
  last.1.lt header.seqNum || (last.1 == header.seqNum && last.2.le header.ackNum)

namespace Sender

/-- The numbers that the sender remembers of the last update. -/
def lastUpdate (sender : Sender) : UpdateNumbers :=
  (sender.sendWindowLastUpdateSeq, sender.sendWindowLastUpdateAck)

/-- The window that a segment advertises: `SEG.WND << window_scale`. -/
def advertised (profile : Profile) (sender : Sender) (header : TcpHeader) : Checked UInt32 := do
  let window ← shlU32 profile header.windowSize.toNat sender.windowScale.toNat
  .ok (UInt32.ofNat window)

/-- A newer segment is taken, with its numbers. -/
theorem updateSendWindow_newer {profile : Profile} {sender sender' : Sender} {header : TcpHeader}
    (updated : sender.updateSendWindow profile header = .ok sender')
    (newer : header.newerThan sender.lastUpdate = true) :
    sender.advertised profile header = .ok sender'.sendWindow.value ∧
      sender'.lastUpdate = (header.seqNum, header.ackNum) := by
  unfold TcpHeader.newerThan lastUpdate at newer
  unfold updateSendWindow at updated
  rw [if_pos newer] at updated
  obtain ⟨window, shifted, updated⟩ := bind_ok.mp updated
  cases updated
  refine ⟨?_, rfl⟩
  rw [advertised, shifted]
  rfl

/-- An older segment is not. -/
theorem updateSendWindow_older {profile : Profile} {sender sender' : Sender} {header : TcpHeader}
    (updated : sender.updateSendWindow profile header = .ok sender')
    (older : header.newerThan sender.lastUpdate = false) : sender' = sender := by
  unfold TcpHeader.newerThan lastUpdate at older
  unfold updateSendWindow at updated
  rw [if_neg (Bool.eq_false_iff.mp older)] at updated
  cases updated
  rfl

end Sender

namespace ControlBlock

/-- The segment is acceptable, its acknowledgement is processed, and it acknowledges nothing
that was never sent. -/
def AcksInWindow (profile : Profile) (cb : ControlBlock κ ρ) (header : TcpHeader) (data : Buffer) :
    Prop :=
  cb.ProcessesAck profile header data ∧ cb.sender.sendUnacked.value.le header.ackNum = true ∧
    header.ackNum.le cb.sender.sendNext.value = true

/-- The window of the segment is taken. -/
def takesWindow (profile : Profile) (cb : ControlBlock κ ρ) (header : TcpHeader) (data : Buffer) :
    Bool :=
  match cb.trimToWindow profile header data with
  | .ok (some segment) => !header.rst && !segment.header.syn && header.ack &&
      cb.sender.acksNew header && header.newerThan cb.sender.lastUpdate
  | _ => false

/-- A segment updates the window exactly if its acknowledgement is processed, is new, and its
numbers are newer than those of the last update. -/
theorem takesWindow_iff {profile : Profile} {cb : ControlBlock κ ρ} {header : TcpHeader}
    {data : Buffer} :
    cb.takesWindow profile header data = true ↔ cb.ProcessesAck profile header data ∧
      cb.sender.acksNew header = true ∧ header.newerThan cb.sender.lastUpdate = true := by
  unfold takesWindow ProcessesAck
  generalize cb.trimToWindow profile header data = trimmed
  rcases trimmed with fault | _ | segment
  · simp
  · simp
  · simp only [Bool.and_eq_true, Bool.not_eq_true', Except.ok.injEq, Option.some.injEq,
      exists_eq_left', and_assoc]

variable [CongestionControl κ] [RtoCalculator ρ] {profile : Profile} {env : Env}
  {cb cb' : ControlBlock κ ρ} {header : TcpHeader} {data : Buffer}

/-- A segment whose window is taken. -/
theorem receive_takes (received : cb.receive profile env header data = .ok cb')
    (takes : cb.takesWindow profile header data = true) :
    cb.sender.advertised profile header = .ok cb'.sender.sendWindow.value ∧
      cb'.sender.lastUpdate = (header.seqNum, header.ackNum) := by
  obtain ⟨processes, new, newer⟩ := takesWindow_iff.mp takes
  obtain ⟨-, -, ⟨-, after⟩ | ⟨stops, -⟩⟩ := receive_acks received
  · rw [SenderAfterAck, if_pos new] at after
    obtain ⟨_, _, -, updated⟩ := after
    have taken := Sender.updateSendWindow_newer updated newer
    exact taken
  · exact absurd processes stops

/-- Any other segment leaves the window and what is remembered of it. -/
theorem receive_ignores (received : cb.receive profile env header data = .ok cb')
    (ignores : cb.takesWindow profile header data = false) :
    cb'.sender.sendWindow = cb.sender.sendWindow ∧ cb'.sender.lastUpdate = cb.sender.lastUpdate := by
  obtain ⟨-, -, ⟨processes, after⟩ | ⟨-, same⟩⟩ := receive_acks received
  · unfold SenderAfterAck at after
    split at after
    · rename_i new
      have older : header.newerThan cb.sender.lastUpdate = false := by
        rw [← Bool.not_eq_true]
        intro newer
        rw [takesWindow_iff.mpr ⟨processes, new, newer⟩] at ignores
        cases ignores
      obtain ⟨_, _, -, updated⟩ := after
      rw [Sender.updateSendWindow_older updated older]
      exact ⟨rfl, rfl⟩
    · rw [after]
      exact ⟨rfl, rfl⟩
  · rw [same]
    exact ⟨rfl, rfl⟩

end ControlBlock

/-- Sending, closing and the coroutines remember what they did. -/
theorem View.Sends.lastUpdate {view view' : View} (sends : view.Sends view') :
    view'.sender.lastUpdate = view.sender.lastUpdate := by
  cases sends with
  | quiet | acknowledges | queues | immediate | probes | departs | repeats | marks | retransmits => rfl

namespace Connection

/-- The step takes the window of a segment. -/
def updates (profile : Profile) (transition : Transition κ ρ) : Bool :=
  match transition.action with
  | .receive _ header data => transition.source.cb.takesWindow profile header data
  | _ => false

/-- The numbers of the segment whose window was taken last, if one was since the handshake. -/
def lastUpdate (profile : Profile) (handshake : UpdateNumbers) : List (Transition κ ρ) → UpdateNumbers
  | [] => handshake
  | ⟨source, action, _⟩ :: past =>
    match action with
    | .receive _ header data =>
      if source.cb.takesWindow profile header data then (header.seqNum, header.ackNum)
      else lastUpdate profile handshake past
    | _ => lastUpdate profile handshake past

variable [CongestionControl κ] [RtoCalculator ρ] {profile : Profile}

/-- What the sender remembers: the last update, or what it began with. -/
theorem lastUpdate_remembered {start state : Connection κ ρ} (handshake : UpdateNumbers)
    {past : List (Transition κ ρ)} (run : Run profile start past state) :
    state.cb.sender.lastUpdate = if past.any (updates profile) then lastUpdate profile handshake past
      else start.cb.sender.lastUpdate := by
  refine Runs.run_invariant (fun past (state : Connection κ ρ) => state.cb.sender.lastUpdate =
    if past.any (updates profile) then lastUpdate profile handshake past
      else start.cb.sender.lastUpdate) ?_ ?_ run (Runs.meets_true past)
  · rfl
  intro past source action target _ _ remembered advanced
  cases action with
  | receive env header data =>
    obtain ⟨cb, received, advanced⟩ := bind_ok.mp advanced
    cases advanced
    cases takes : source.cb.takesWindow profile header data with
    | true =>
      rw [List.any_cons, show updates profile ⟨source, .receive env header data, _⟩ = true from takes,
        Bool.true_or, if_pos rfl, lastUpdate, if_pos takes]
      exact (ControlBlock.receive_takes received takes).2
    | false =>
      rw [List.any_cons, show updates profile ⟨source, .receive env header data, _⟩ = false from takes,
        Bool.false_or, lastUpdate, if_neg (Bool.eq_false_iff.mp takes)]
      exact (ControlBlock.receive_ignores received takes).2.trans remembered
  | pollRecv waker =>
    cases advanced
    have same : (source.cb.pollRecv waker).1.sender = source.cb.sender := by
      simp only [ControlBlock.pollRecv]
      split <;> rfl
    exact (congrArg Sender.lastUpdate same).trans remembered
  | send | close | senderRound | retransmitterRound | acknowledgerRound =>
    exact (step_sends rfl advanced).lastUpdate.trans remembered

omit [CongestionControl κ] [RtoCalculator ρ] in
/-- An acknowledgement that is not behind is the oldest outstanding number or new. -/
theorem acksNew_of_lt {cb : ControlBlock κ ρ} {header : TcpHeader} {data : Buffer}
    (inside : cb.AcksInWindow profile header data)
    (new : cb.sender.sendUnacked.value.lt header.ackNum = true) : cb.sender.acksNew header = true := by
  rw [Sender.acksNew, new, inside.2.2]
  rfl

/-- Updates of the send window. In every run, for whatever numbers the handshake left to compare
with, and for every segment that is acceptable, acknowledges nothing that was never sent and is
newer than the last update: afterwards the send window is the advertised one if it was already, or
if the segment acknowledges new data and either there has been an update since the start or
the segment is newer than what the sender remembers from the start. Otherwise it is not. After a
handshake the sender remembers our own initial sequence number, twice.

Proof: the numbers that the sender remembers are the last update of the run, or those
left by the handshake if there has been none. The segment is then taken or ignored, and
each case is compared with what the sender remembers. -/
theorem window_updated_iff (profile : Profile) {start state : Connection κ ρ}
    (handshake : UpdateNumbers) {past : List (Transition κ ρ)} (run : Run profile start past state)
    {env : Env} {header : TcpHeader} {data : Buffer} {cb : ControlBlock κ ρ}
    (received : state.cb.receive profile env header data = .ok cb)
    (inside : state.cb.AcksInWindow profile header data)
    (newer : header.newerThan (lastUpdate profile handshake past) = true) :
    state.cb.sender.advertised profile header = .ok cb.sender.sendWindow.value ↔
      state.cb.sender.advertised profile header = .ok state.cb.sender.sendWindow.value ∨
      (state.cb.sender.sendUnacked.value.lt header.ackNum = true ∧
        (past.any (updates profile) = true ∨
          header.newerThan start.cb.sender.lastUpdate = true)) := by
  have remembered := lastUpdate_remembered handshake run
  cases takes : state.cb.takesWindow profile header data with
  | true =>
    have taken := (ControlBlock.receive_takes received takes).1
    obtain ⟨-, new, stored⟩ := ControlBlock.takesWindow_iff.mp takes
    refine ⟨fun _ => .inr ⟨?_, ?_⟩, fun _ => taken⟩
    · exact (Bool.and_eq_true _ _ ▸ new : _ ∧ _).1
    · rw [remembered] at stored
      split at stored
      · rename_i updated
        exact .inl updated
      · exact .inr stored
  | false =>
    rw [(ControlBlock.receive_ignores received takes).1]
    refine ⟨.inl, ?_⟩
    rintro (already | ⟨new, first⟩)
    · exact already
    have stored : header.newerThan state.cb.sender.lastUpdate = true := by
      rw [remembered]
      split
      · exact newer
      · rename_i never
        exact first.resolve_left never
    have taken := ControlBlock.takesWindow_iff.mpr ⟨inside.1, acksNew_of_lt inside new, stored⟩
    rw [takes] at taken
    cases taken

/-- An acknowledgement of everything sent by a connection that has sent five bytes. -/
def sampleUpdate (seqNum : Nat) (windowSize : UInt16) : TcpHeader :=
  { TcpHeader.new 4321 80 with
    seqNum := SeqNumber.ofU32 seqNum
    ackNum := SeqNumber.ofU32 1005
    ack := true
    windowSize }

/-- There the first update is taken. -/
theorem window_updated_first :
    ∃ past state cb, Run .dev sampleAhead past state ∧
      state.cb.receive .dev (Env.sample 1) (sampleUpdate 2000 7) [] = .ok cb ∧
      state.cb.sender.advertised .dev (sampleUpdate 2000 7) = .ok cb.sender.sendWindow.value := by
  have executed : ∃ past state cb, execute .dev sampleAhead [.send (Env.sample 0) [1, 2, 3, 4, 5]] =
        .ok (past, state) ∧
      state.cb.receive .dev (Env.sample 1) (sampleUpdate 2000 7) [] = .ok cb ∧
      state.cb.AcksInWindow .dev (sampleUpdate 2000 7) [] ∧
      (sampleUpdate 2000 7).newerThan
        (lastUpdate .dev (SeqNumber.ofU32 2000, SeqNumber.ofU32 1000) past) = true ∧
      state.cb.sender.sendUnacked.value.lt (sampleUpdate 2000 7).ackNum = true := by
    refine ⟨_, _, _, rfl, rfl, ⟨⟨_, rfl, ?_⟩, ?_⟩, ?_⟩
    · decide
    · decide
    · decide
  obtain ⟨past, state, cb, executed, received, inside, newer, new⟩ := executed
  have run := run_of_execute executed
  have updated := window_updated_iff .dev _ run received inside newer
  exact ⟨past, state, cb, run, received, updated.mpr (.inr ⟨new, .inr (by decide)⟩)⟩

/-- Five bytes have left into a window of 20. If the numbers of the peer are behind ours, the first
update after the handshake is lost: the window stays 20. If they are ahead, it closes the window,
and the update that opens it again is lost: the window stays closed. -/
theorem window_update_lost :
    (∃ past state cb, Run .dev (sample 1000 20 536) past state ∧
      state.cb.receive .dev (Env.sample 1) (sampleUpdate 100 1000) [] = .ok cb ∧
      state.cb.AcksInWindow .dev (sampleUpdate 100 1000) [] ∧
      (sampleUpdate 100 1000).newerThan
        (lastUpdate .dev (SeqNumber.ofU32 100, SeqNumber.ofU32 1000) past) = true ∧
      state.cb.sender.advertised .dev (sampleUpdate 100 1000) = .ok 1000 ∧
      cb.sender.sendWindow.value = 20) ∧
    (∃ past state cb, Run .dev sampleAhead past state ∧
      state.cb.receive .dev (Env.sample 1) (sampleUpdate 2000 1000) [] = .ok cb ∧
      state.cb.AcksInWindow .dev (sampleUpdate 2000 1000) [] ∧
      (sampleUpdate 2000 1000).newerThan
        (lastUpdate .dev (SeqNumber.ofU32 2000, SeqNumber.ofU32 1000) past) = true ∧
      state.cb.sender.advertised .dev (sampleUpdate 2000 1000) = .ok 1000 ∧
      state.cb.sender.sendWindow.value = 0 ∧ cb.sender.sendWindow.value = 0) := by
  constructor
  · refine ⟨_, _, _, @run_of_execute _ _ _ _ .dev _ _ [.send (Env.sample 0) [1, 2, 3, 4, 5]] _ rfl,
      rfl, ⟨⟨_, rfl, ?_⟩, ?_⟩, ?_⟩
    · decide
    · decide
    · decide
  · refine ⟨_, _, _, @run_of_execute _ _ _ _ .dev _ _ [.send (Env.sample 0) [1, 2, 3, 4, 5],
      .receive (Env.sample 0) (sampleUpdate 2000 0) []] _ rfl, rfl, ⟨⟨_, rfl, ?_⟩, ?_⟩, ?_⟩
    · decide
    · decide
    · decide

end Connection

end Capybara
