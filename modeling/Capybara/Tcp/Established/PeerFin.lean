import Capybara.Tcp.Established.Progress

/-!
# The FIN of the peer

A stream of `length` bytes ends with a FIN at the next number. The FIN may arrive
before the bytes in front of it; it is then remembered and taken when the bytes
up to it have been joined. Two steps go wrong. `receive_data` looks at the
remembered FIN only after it has moved a stored entry, so in-order text that ends
exactly at the FIN leaves it behind; and a FIN that follows the FIN of the stream
is taken as well.

In every run without these two steps, and without the overlaps that stop
reassembly, `receive_next` passes the FIN exactly when the stream is complete.
-/

namespace Capybara

open OutOfOrder

variable {κ ρ : Type}

namespace ControlBlock

/-- A segment of a stream of `length` bytes that starts at `base` and ends with a
FIN, near `receive_next`, which stands at the position `next`. -/
structure PeerSegment (base : SeqNumber) (length next : Nat) (cb : ControlBlock κ ρ)
    (header : TcpHeader) (data : Buffer) : Prop where
  syn : header.syn = false
  rst : header.rst = false
  ack : header.ack = true
  known : cb.sender.acksUnsent header = false
  place : (data = [] ∧ header.fin = false) ∨
    ∃ offset, header.seqNum = base.advanced offset ∧ next ≤ offset + 2 ^ 31 ∧
      offset < next + 2 ^ 31 ∧ offset + data.length ≤ length ∧
      (header.fin = true → offset + data.length = length)

/-- In-order text without a FIN does not end exactly at a remembered FIN. -/
def FinInReach (cb : ControlBlock κ ρ) (text : Text) : Prop :=
  text.offset = 0 → text.bytes ≠ [] → text.fin = false →
    cb.outOfOrderFin ≠ some (cb.receiver.receiveNext.advanced text.bytes.length)

variable {cb : ControlBlock κ ρ} {header : TcpHeader} {data : Buffer} {base : SeqNumber}
  {length next : Nat}

/-- The text of a segment of the stream lies in the stream, and its FIN at the end. -/
theorem PeerSegment.text (segment : cb.PeerSegment base length next header data)
    (receiveNext : cb.receiver.receiveNext = base.advanced next) :
    ((cb.textInWindow header data).bytes ≠ [] → next + (cb.textInWindow header data).offset +
      (cb.textInWindow header data).bytes.length ≤ length) ∧
    ((cb.textInWindow header data).fin = true → next + (cb.textInWindow header data).offset +
      (cb.textInWindow header data).bytes.length = length ∧ length < next + cb.window) := by
  obtain ⟨rfl, noFin⟩ | ⟨offset, number, recent, near, inside, atEnd⟩ := segment.place
  · exact ⟨by simp [textInWindow], by simp [textInWindow, noFin]⟩
  have position : cb.textPosition header = (offset : Int) - next := by
    rw [textPosition, receiveNext, number, segment.syn, SeqNumber.position_advanced base recent near]
    simp
  simp only [textInWindow, position, List.length_take, List.length_drop, Bool.and_eq_true,
    decide_eq_true_eq, ne_eq, ← List.length_eq_zero_iff]
  refine ⟨by omega, ?_⟩
  rintro ⟨⟨fin, started⟩, fits⟩
  have ends := atEnd fin
  omega

/-- A segment of the stream with text in the window goes all the way through
`receive`. -/
theorem PeerSegment.reaches (segment : cb.PeerSegment base length next header data)
    (occupied : 0 < (cb.textInWindow header data).length) : cb.ReachesText header data := by
  refine ⟨⟨acceptable_of_text segment.syn occupied, segment.rst, ?_, segment.ack⟩, segment.known⟩
  rw [segment.syn, Bool.false_and]

end ControlBlock

namespace Connection

/-- The step receives the FIN of the stream in the window. -/
def FinCarried (base : SeqNumber) (length next : Nat) (transition : Transition κ ρ) : Prop :=
  match transition.action with
  | .receive _ header data =>
    header.fin = true ∧ header.seqNum.advanced data.length = base.advanced length ∧
      next ≤ length ∧ length < next + transition.source.cb.window
  | _ => False

/-- The FIN of the stream has arrived in the window. -/
def FinArrived (base : SeqNumber) (length : Nat) : List (Transition κ ρ) → Prop
  | [] => False
  | transition :: past =>
    FinArrived base length past ∨ FinCarried base length (received past) transition

/-- Arriving segments are of the stream until its FIN has been taken, and
arbitrary from then on. -/
def PeerArrival (base : SeqNumber) (length : Nat) (past : List (Transition κ ρ))
    (c : Connection κ ρ) : Action → Prop
  | .receive _ header data => sequenceLength header data ≤ 2 ^ 31 ∧
    (received past ≤ length → c.cb.PeerSegment base length (received past) header data)
  | _ => True

/-- Until the FIN has been taken, arriving text overlaps no stored entry partially,
is not cut from the store and does not end at a remembered FIN; from then on no
segment carries a FIN in order. -/
def FinSafe (profile : Profile) (length : Nat) (past : List (Transition κ ρ)) (c : Connection κ ρ) :
    Action → Prop
  | .receive _ header data =>
    let text := c.cb.textInWindow header data
    (received past ≤ length → c.cb.OverlapFree text ∧ c.cb.FinInReach text ∧
      (0 < text.offset → text.bytes ≠ [] → Uncut profile c.cb.reception text)) ∧
    (length < received past → c.cb.ReachesText header data → text.offset = 0 → text.fin = false)
  | _ => True

/-- The FIN of the stream has not been taken. -/
structure BeforeFin (base : SeqNumber) (length : Nat) (past : List (Transition κ ρ))
    (cb : ControlBlock κ ρ) : Prop where
  accounted : Accounted base (received past) (allPopped past).length cb
  tidy : cb.TidyStore
  gathered : Gathered (received past) (Arrived base past) cb
  receives : cb.state.receivesData = true
  within : received past ≤ length
  inside : ∀ position, Arrived base past position → position < length
  remembered : ∀ number, cb.outOfOrderFin = some number →
    number = base.advanced length ∧ length < received past + cb.window
  pending : FinArrived base length past →
    cb.outOfOrderFin = some (base.advanced length) ∧ received past ≠ length

/-- The FIN of the stream has been taken, and nothing after it. -/
structure AfterFin (base : SeqNumber) (length : Nat) (past : List (Transition κ ρ))
    (cb : ControlBlock κ ρ) : Prop where
  accounted : Accounted base (received past) (allPopped past).length cb
  taken : received past = length + 1
  refuses : cb.state.receivesData = false

namespace BeforeFin

variable {base : SeqNumber} {length : Nat} {past : List (Transition κ ρ)} {cb : ControlBlock κ ρ}

/-- Stored entries end in the stream. -/
theorem ends (before : BeforeFin base length past cb) {entry : SeqNumber × Buffer}
    (member : entry ∈ cb.outOfOrder) :
    received past + OutOfOrder.past cb.receiver.receiveNext entry ≤ length := by
  have occupied := before.tidy.occupied entry member
  have wide : OutOfOrder.past cb.receiver.receiveNext entry =
    first cb.receiver.receiveNext entry + entry.2.length := rfl
  have arrived := (before.gathered.above
    (OutOfOrder.past cb.receiver.receiveNext entry - 1)).mpr ⟨entry, member, by omega, by omega⟩
  have := before.inside _ arrived
  omega

/-- A FIN taken with in-order text is the one at the end of the stream. -/
theorem joined_end (before : BeforeFin base length past cb) {text : Text}
    {front rest : List (SeqNumber × Buffer)}
    (fits : text.bytes.length ≤ cb.window)
    (first : ∀ entry ∈ cb.outOfOrder, text.bytes.length ≤ first cb.receiver.receiveNext entry)
    (inOrder : text.offset = 0)
    (atEnd : text.fin = true →
      received past + text.offset + text.bytes.length = length ∧ length < received past + cb.window)
    (joins : cb.reception.Joins text front rest true) :
    received past + (text.bytes.length + storedLength front) = length := by
  obtain ⟨reach, -, -, covered⟩ := before.tidy.joins before.accounted.settled fits first joins
  have small := before.accounted.settled.window_lt
  have within := before.within
  have fin := joins.fin
  rw [eq_comm, Bool.or_eq_true, Bool.and_eq_true, beq_iff_eq] at fin
  rcases fin with own | ⟨-, remembered⟩
  · obtain ⟨ends, -⟩ := atEnd own
    -- A stored run behind the FIN would lie outside the stream.
    by_contra apart
    obtain ⟨entry, member, -, stops⟩ := covered text.bytes.length (Nat.le_refl _) (by omega)
    have member : entry ∈ cb.outOfOrder := by
      rw [show cb.outOfOrder = front ++ rest from joins.store]
      exact List.mem_append_left _ member
    have := before.ends member
    omega
  · obtain ⟨number, near⟩ := before.remembered _ remembered
    have end_ : base.advanced length =
        cb.receiver.receiveNext.advanced (length - received past) := by
      rw [before.accounted.receiveNext, SeqNumber.advanced_advanced]
      congr 1
      omega
    rw [end_] at number
    have distance := (SeqNumber.advanced_inj _ (by omega) (by omega)).mp number
    omega

/-- No stored entry starts after the FIN. -/
theorem finGap (before : BeforeFin base length past cb) {text : Text}
    (fits : text.bytes ≠ [] → text.offset + text.bytes.length ≤ cb.window)
    (free : cb.OverlapFree text)
    (atEnd : text.fin = true →
      received past + text.offset + text.bytes.length = length ∧ length < received past + cb.window) :
    cb.FinGap text := by
  intro inOrder
  have wide (entry : SeqNumber × Buffer) : OutOfOrder.past cb.receiver.receiveNext entry =
    first cb.receiver.receiveNext entry + entry.2.length := rfl
  constructor
  · rintro receives some front rest fin joins rfl entry member same
    have whole := before.joined_end (by have := fits some; omega)
      (fun entry member => (free receives some entry member).2 inOrder) inOrder atEnd joins
    have := before.ends (show entry ∈ cb.outOfOrder by
      rw [show cb.outOfOrder = front ++ rest from joins.store]
      exact List.mem_append_right _ member)
    have := wide entry
    omega
  · intro none fin entry member same
    have none : text.bytes = [] := none.resolve_right (by rw [before.receives]; simp)
    obtain ⟨ends, -⟩ := atEnd fin
    rw [none, List.length_nil] at ends
    have := before.ends member
    have := wide entry
    omega

/-- Nothing changes for the FIN while nothing of the stream arrives. -/
theorem quiet (before : BeforeFin base length past cb) {past' : List (Transition κ ρ)}
    {cb' : ControlBlock κ ρ}
    (accounted : Accounted base (received past') (allPopped past').length cb')
    (tidy : cb'.TidyStore) (receives : cb'.state.receivesData = cb.state.receivesData)
    (edge : received past + cb.window ≤ received past' + cb'.window)
    (next : cb'.receiver.receiveNext = cb.receiver.receiveNext)
    (count : received past' = received past)
    (store : cb'.outOfOrder = cb.outOfOrder) (fin : cb'.outOfOrderFin = cb.outOfOrderFin)
    (arrived : ∀ position, Arrived base past' position ↔ Arrived base past position)
    (finArrived : FinArrived base length past' ↔ FinArrived base length past) :
    BeforeFin base length past' cb' := by
  refine ⟨accounted, tidy, ?_, receives.trans before.receives, by rw [count]; exact before.within,
    fun position arrives => before.inside position ((arrived position).mp arrives), ?_, ?_⟩
  · rw [count]
    exact before.gathered.congr arrived next store
  · intro number remembered
    rw [fin] at remembered
    obtain ⟨atEnd, near⟩ := before.remembered number remembered
    exact ⟨atEnd, by omega⟩
  · intro arrives
    rw [fin, count]
    exact before.pending (finArrived.mp arrives)

end BeforeFin

/-- The FIN in the window is the FIN of the text. -/
theorem finCarried_iff {base : SeqNumber} {length received popped : Nat} {source : Connection κ ρ}
    (target : Connection κ ρ) (accounted : Accounted base received popped source.cb) (env : Env)
    {header : TcpHeader} {data : Buffer} (short : sequenceLength header data ≤ 2 ^ 31)
    (segment : source.cb.PeerSegment base length received header data) :
    FinCarried base length received ⟨source, .receive env header data, target⟩ ↔
      (source.cb.textInWindow header data).fin = true := by
  have small := accounted.settled.window_lt
  have bound : data.length ≤ 2 ^ 31 := by
    simp only [sequenceLength] at short
    omega
  have place (after : received ≤ length) : base.advanced length =
      source.cb.receiver.receiveNext.advanced (length - received) := by
    rw [accounted.receiveNext, SeqNumber.advanced_advanced]
    congr 1
    omega
  simp only [FinCarried]
  constructor
  · rintro ⟨fin, number, after, inside⟩
    rw [place after, SeqNumber.advanced_eq_iff _ _ bound (by omega)] at number
    simp only [ControlBlock.textInWindow, ControlBlock.textPosition, segment.syn, fin,
      Bool.toNat_false, Bool.true_and, Bool.and_eq_true, decide_eq_true_eq]
    omega
  · intro fin
    obtain ⟨ends, inside⟩ := (segment.text accounted.receiveNext).2 fin
    have after : received ≤ length := by omega
    simp only [ControlBlock.textInWindow, ControlBlock.textPosition, segment.syn, Bool.toNat_false,
      Bool.and_eq_true, decide_eq_true_eq, List.length_take, List.length_drop] at fin ends
    refine ⟨fin.1.1, ?_, after, inside⟩
    rw [place after, SeqNumber.advanced_eq_iff _ _ bound (by omega)]
    omega

/-- Nothing but a segment carries a FIN. -/
theorem not_finCarried {base : SeqNumber} {length next : Nat} {transition : Transition κ ρ}
    (other : ∀ env header data, transition.action ≠ .receive env header data) :
    ¬ FinCarried base length next transition := by
  unfold FinCarried
  split
  · rename_i env header data action
    exact absurd action (other env header data)
  · exact id

end Connection

/-- While no FIN is taken, the remembered FIN is the last one seen out of order. -/
theorem ControlBlock.TextOutcome.remembered {profile : Profile} {cb cb' : ControlBlock κ ρ}
    {text : Text} {state : State} (outcome : cb.TextOutcome profile text state cb')
    (receives : state.receivesData = true) (unfinished : cb'.state.receivesData = true) :
    cb'.outOfOrderFin = cb.reception.rememberFin text := by
  cases outcome with
  | ignored nothing _ reception _ =>
    have empty : text.length = 0 := nothing.resolve_right (by rw [receives]; simp)
    have plain : text.fin = false := by
      cases fin : text.fin with
      | false => rfl
      | true => rw [Text.length, fin] at empty; cases empty
    rw [outOfOrderFin_eq reception, Reception.rememberFin, plain]
    rfl
  | stored _ _ _ _ reception _ => exact congrArg Reception.outOfOrderFin reception
  | @joined _ _ fin _ _ _ joins reception taken =>
    cases fin with
    | true =>
      rw [stateAfterFin_receivesData taken.1] at unfinished
      cases unfinished
    | false =>
      have plain : text.fin = false := (Bool.or_eq_false_iff.mp joins.fin.symm).1
      rw [Reception.rememberFin, plain]
      exact congrArg Reception.outOfOrderFin reception
  | finished _ _ _ _ taken =>
    rw [stateAfterFin_receivesData taken.1] at unfinished
    cases unfinished

namespace Connection.BeforeFin

variable {base : SeqNumber} {length : Nat} {past : List (Transition κ ρ)} {cb cb' : ControlBlock κ ρ}
  {text : Text} {profile : Profile} {state : State}

/-- Once the FIN has arrived, text that takes no FIN does not complete the stream. -/
theorem incomplete (before : BeforeFin base length past cb)
    (fits : text.bytes ≠ [] → text.offset + text.bytes.length ≤ cb.window)
    (bounded : text.bytes ≠ [] → received past + text.offset + text.bytes.length ≤ length)
    (atEnd : text.fin = true →
      received past + text.offset + text.bytes.length = length ∧ length < received past + cb.window)
    (free : cb.OverlapFree text) (reach : cb.FinInReach text)
    (receives : state.receivesData = true) (unfinished : cb'.state.receivesData = true)
    (outcome : cb.TextOutcome profile text state cb')
    (arrived : FinArrived base length past ∨ text.fin = true) :
    received past + cb.receiver.receiveNext.ahead cb'.receiver.receiveNext ≠ length := by
  have small := before.accounted.settled.window_lt
  cases outcome with
  | ignored nothing _ reception _ =>
    have empty : text.length = 0 := nothing.resolve_right (by rw [receives]; simp)
    rw [ControlBlock.receiver_eq reception, SeqNumber.ahead_self]
    rcases arrived with earlier | fin
    · exact (before.pending earlier).2
    · rw [Text.length, fin] at empty
      cases empty
  | stored later occupied _ _ reception _ =>
    rw [show cb'.receiver = cb.receiver from congrArg Reception.receiver reception,
      SeqNumber.ahead_self]
    by_cases none : text.bytes = []
    · have fin : text.fin = true := by
        cases fin : text.fin with
        | true => rfl
        | false => rw [Text.length, none, fin] at occupied; cases occupied
      have := (atEnd fin).1
      omega
    · have := bounded none
      omega
  | @joined front rest fin inOrder bytes _ joins reception taken =>
    cases fin with
    | true =>
      rw [stateAfterFin_receivesData taken.1] at unfinished
      cases unfinished
    | false =>
      have within : text.bytes.length ≤ cb.window := by
        have := fits bytes
        omega
      have room := (before.tidy.joins before.accounted.settled within
        (fun entry member => (free before.receives bytes entry member).2 inOrder) joins).1
      have moved : cb'.receiver.receiveNext =
          cb.receiver.receiveNext.advanced (text.bytes.length + storedLength front) :=
        congrArg (fun after => after.receiver.receiveNext) reception
      obtain ⟨plain, untaken⟩ := Bool.or_eq_false_iff.mp joins.fin.symm
      have earlier : FinArrived base length past := by
        rw [plain] at arrived
        simpa using arrived
      rw [moved, SeqNumber.ahead_advanced_of_lt _ (by omega)]
      intro complete
      -- The text ends at the remembered FIN, and no stored entry was moved.
      have remembered : cb.outOfOrderFin = some (cb.receiver.receiveNext.advanced
          (text.bytes.length + storedLength front)) := by
        rw [(before.pending earlier).1, before.accounted.receiveNext, SeqNumber.advanced_advanced,
          complete]
      rw [show cb.reception.outOfOrderFin = some (cb.reception.receiver.receiveNext.advanced
        (text.bytes.length + storedLength front)) from remembered, beq_self_eq_true,
        Bool.and_true] at untaken
      have empty : front = [] := by simpa using untaken
      rw [empty, storedLength_nil, Nat.add_zero] at remembered
      exact reach inOrder bytes plain remembered
  | finished _ _ _ _ taken =>
    rw [stateAfterFin_receivesData taken.1] at unfinished
    cases unfinished

/-- Text that takes a FIN completes the stream. -/
theorem complete (before : BeforeFin base length past cb)
    (fits : text.bytes ≠ [] → text.offset + text.bytes.length ≤ cb.window)
    (atEnd : text.fin = true →
      received past + text.offset + text.bytes.length = length ∧ length < received past + cb.window)
    (free : cb.OverlapFree text) (receives : state.receivesData = true)
    (finished : cb'.state.receivesData = false) (outcome : cb.TextOutcome profile text state cb') :
    received past + cb.receiver.receiveNext.ahead cb'.receiver.receiveNext = length + 1 := by
  have small := before.accounted.settled.window_lt
  cases outcome with
  | ignored _ _ _ kept =>
    rw [kept, receives] at finished
    cases finished
  | stored _ _ _ _ _ kept =>
    rw [kept, receives] at finished
    cases finished
  | @joined front rest fin inOrder some _ joins reception taken =>
    cases fin with
    | false =>
      rw [show cb'.state = state from taken, receives] at finished
      cases finished
    | true =>
      have within : text.bytes.length ≤ cb.window := by
        have := fits some
        omega
      have first (entry : SeqNumber × Buffer) (member : entry ∈ cb.outOfOrder) :=
        (free before.receives some entry member).2 inOrder
      have room := (before.tidy.joins before.accounted.settled within first joins).1
      have whole := before.joined_end within first inOrder atEnd joins
      have moved : cb'.receiver.receiveNext =
          cb.receiver.receiveNext.advanced (text.bytes.length + storedLength front + 1) :=
        congrArg (fun after => after.receiver.receiveNext) reception
      rw [moved, SeqNumber.ahead_advanced_of_lt _ (by omega)]
      omega
  | finished inOrder none fin reception _ =>
    have none : text.bytes = [] := none.resolve_right (by rw [receives]; simp)
    have moved : cb'.receiver.receiveNext = cb.receiver.receiveNext.advanced 1 :=
      congrArg (fun after => after.receiver.receiveNext) reception
    obtain ⟨ends, -⟩ := atEnd fin
    rw [none, List.length_nil] at ends
    rw [moved, SeqNumber.ahead_advanced_of_lt _ (by omega)]
    omega

end Connection.BeforeFin

variable [CongestionControl κ] [RtoCalculator ρ]

namespace Connection

/-- The right edge does not move back. -/
theorem edge_mono {profile : Profile} {base : SeqNumber} {received received' popped popped' : Nat}
    {source target : Connection κ ρ} {action : Action}
    (accounted : Accounted base received popped source.cb)
    (accounted' : Accounted base received' popped' target.cb) (more : popped ≤ popped')
    (short : ∀ env header data, action = .receive env header data →
      sequenceLength header data ≤ 2 ^ 31)
    (advanced : source.step profile action = .ok target) :
    received + source.cb.window ≤ received' + target.cb.window := by
  have edge := accounted.window_edge
  have edge' := accounted'.window_edge
  rw [step_size accounted.settled short advanced] at edge'
  omega

/-- Whether data may be received is changed only by an arriving segment. -/
theorem step_receivesData {profile : Profile} {source target : Connection κ ρ} {action : Action}
    (other : ∀ env header data, action ≠ .receive env header data)
    (advanced : source.step profile action = .ok target) :
    target.cb.state.receivesData = source.cb.state.receivesData := by
  cases action with
  | receive env header data => exact absurd rfl (other env header data)
  | pollRecv waker =>
    cases advanced
    simp only [ControlBlock.pollRecv]
    split <;> rfl
  | send | close | senderRound | retransmitterRound | acknowledgerRound =>
    rcases (step_undisturbed rfl advanced).state with same | sent
    · exact congrArg State.receivesData same
    · exact (congrArg State.receivesData sent).trans (stateAfterFinSent_receivesData _)

/-- A segment of the stream takes its FIN or leaves it pending. -/
theorem BeforeFin.receive {profile : Profile} {base : SeqNumber} {length : Nat}
    {past : List (Transition κ ρ)} {source : Connection κ ρ} {cb : ControlBlock κ ρ} {env : Env}
    {header : TcpHeader} {data : Buffer} (before : BeforeFin base length past source.cb)
    (arrival : PeerArrival base length past source (.receive env header data))
    (safe : FinSafe profile length past source (.receive env header data))
    (received' : source.cb.receive profile env header data = .ok cb) :
    let past' := ⟨source, .receive env header data, ⟨cb, source.task⟩⟩ :: past
    BeforeFin base length past' cb ∨ AfterFin base length past' cb := by
  intro past'
  obtain ⟨short, segment⟩ := arrival
  have segment := segment before.within
  obtain ⟨free, reach, uncut⟩ := safe.1 before.within
  obtain ⟨bounded, atEnd⟩ := segment.text before.accounted.receiveNext
  have settled := before.accounted.settled
  have fits := source.cb.text_fits header data
  have same := source.cb.stateAfterAck_receivesData header
  have advanced : source.step profile (.receive env header data) = .ok ⟨cb, source.task⟩ :=
    bind_ok.mpr ⟨cb, received', rfl⟩
  have tidies : TidyArrival source (.receive env header data) :=
    ⟨short, fun _ => ⟨free, before.finGap fits free atEnd⟩⟩
  obtain ⟨accounted', tidy'⟩ := before.accounted.tidy_step before.tidy tidies advanced
  rw [← List.length_append] at accounted'
  have edge := edge_mono before.accounted accounted' (by simp) (fun _ _ _ same => by cases same; exact short)
    advanced
  have carried (position : Nat) := carried_iff ⟨cb, source.task⟩ before.accounted env short
    segment.syn position
  have finCarried := finCarried_iff ⟨cb, source.task⟩ before.accounted env short segment
  have outcome := (ControlBlock.receive_cases settled short received').text
  split at outcome
  · cases finished : cb.state.receivesData with
    | false =>
      exact .inr ⟨accounted', before.complete fits atEnd free (same.trans before.receives) finished
        outcome, finished⟩
    | true =>
      left
      have arrived (position : Nat) : Arrived base past' position → position < length := by
        rintro (earlier | now)
        · exact before.inside position earlier
        · obtain ⟨starts, stops⟩ := (carried position).mp now
          have := bounded (List.ne_nil_of_length_pos (by omega))
          omega
      have gathered : Gathered (received past') (Arrived base past') cb :=
        (before.gathered.outcome before.tidy settled fits free uncut before.receives same finished
          outcome).congr (fun position => or_congr_right (carried position)) rfl rfl
      have remembers := outcome.remembered (same.trans before.receives) finished
      have atFin : (source.cb.textInWindow header data).fin = true →
          cb.outOfOrderFin = some (base.advanced length) ∧ length < received past' + cb.window := by
        intro fin
        obtain ⟨ends, near⟩ := atEnd fin
        refine ⟨?_, Nat.lt_of_lt_of_le near edge⟩
        rw [remembers, Reception.rememberFin, if_pos fin, ← ends, Nat.add_assoc,
          ← SeqNumber.advanced_advanced base, ← before.accounted.receiveNext]
        rfl
      refine ⟨accounted', tidy', gathered, finished, ?_, arrived, ?_, ?_⟩
      · rcases Nat.eq_zero_or_pos (received past') with none | some
        · omega
        · have := arrived _ (gathered.below (received past' - 1) (by omega))
          omega
      · intro number remembered
        cases fin : (source.cb.textInWindow header data).fin with
        | true =>
          rw [(atFin fin).1] at remembered
          exact ⟨(Option.some.inj remembered).symm, (atFin fin).2⟩
        | false =>
          rw [remembers, Reception.rememberFin, fin] at remembered
          obtain ⟨same, near⟩ := before.remembered number remembered
          exact ⟨same, Nat.lt_of_lt_of_le near edge⟩
      · intro arrives
        have arrives : FinArrived base length past ∨
            (source.cb.textInWindow header data).fin = true := arrives.imp_right finCarried.mp
        refine ⟨?_, before.incomplete fits bounded atEnd free reach (same.trans before.receives)
          finished outcome arrives⟩
        cases fin : (source.cb.textInWindow header data).fin with
        | true => exact (atFin fin).1
        | false =>
          rw [remembers, Reception.rememberFin, fin]
          rw [fin] at arrives
          exact (before.pending (by simpa using arrives)).1
  · rename_i stops
    left
    obtain ⟨reception, kept⟩ := outcome
    have empty : (source.cb.textInWindow header data).length = 0 := by
      by_contra some
      exact stops (segment.reaches (Nat.pos_of_ne_zero some))
    obtain ⟨noBytes, noFin⟩ := Nat.eq_zero_of_add_eq_zero empty
    have next := congrArg Receiver.receiveNext (ControlBlock.receiver_eq reception)
    have state : cb.state = source.cb.state := by
      rcases kept with same | ⟨-, reset⟩
      · exact same
      · rw [segment.rst, segment.syn] at reset
        simp at reset
    refine before.quiet accounted' tidy' (congrArg State.receivesData state) edge next
      (received_of_eq past next) (ControlBlock.outOfOrder_eq reception)
      (ControlBlock.outOfOrderFin_eq reception) (fun position => ?_) ?_
    · exact or_iff_left fun now => Text.not_holds (List.eq_nil_of_length_eq_zero noBytes) _ _
        ((carried position).mp now)
    · refine or_iff_left fun now => ?_
      rw [finCarried.mp now] at noFin
      cases noFin

/-- Every action leaves the FIN pending or takes it. -/
theorem BeforeFin.step {profile : Profile} {base : SeqNumber} {length : Nat}
    {past : List (Transition κ ρ)} {source target : Connection κ ρ} {action : Action}
    (before : BeforeFin base length past source.cb)
    (arrival : PeerArrival base length past source action)
    (safe : FinSafe profile length past source action)
    (advanced : source.step profile action = .ok target) :
    BeforeFin base length (⟨source, action, target⟩ :: past) target.cb ∨
      AfterFin base length (⟨source, action, target⟩ :: past) target.cb := by
  cases action with
  | receive env header data =>
    obtain ⟨cb, received', advanced⟩ := bind_ok.mp advanced
    cases advanced
    exact before.receive arrival safe received'
  | pollRecv | send | close | senderRound | retransmitterRound | acknowledgerRound =>
    left
    obtain ⟨accounted', tidy'⟩ := before.accounted.tidy_step before.tidy (by exact trivial) advanced
    rw [← List.length_append] at accounted'
    obtain ⟨next, store, fin⟩ := step_quiet (by simp) advanced
    refine before.quiet accounted' tidy' (step_receivesData (by simp) advanced)
      (edge_mono before.accounted accounted' (by simp) (by simp) advanced) next
      (received_of_eq past next) store fin (fun position => ?_) ?_
    · exact or_iff_left (not_carried (by simp) position)
    · exact or_iff_left (not_finCarried (by simp))

/-- After the FIN nothing moves `receive_next` but a further FIN in order. -/
theorem AfterFin.step {profile : Profile} {base : SeqNumber} {length : Nat}
    {past : List (Transition κ ρ)} {source target : Connection κ ρ} {action : Action}
    (after : AfterFin base length past source.cb)
    (arrival : PeerArrival base length past source action)
    (safe : FinSafe profile length past source action)
    (advanced : source.step profile action = .ok target) :
    AfterFin base length (⟨source, action, target⟩ :: past) target.cb := by
  obtain ⟨accounted, taken, refuses⟩ := after
  cases action with
  | receive env header data =>
    obtain ⟨cb, received', advanced⟩ := bind_ok.mp advanced
    cases advanced
    obtain ⟨short, -⟩ := arrival
    have safe := safe.2 (by omega)
    have same := source.cb.stateAfterAck_receivesData header
    have outcome := (ControlBlock.receive_cases accounted.settled short received').text
    have unchanged : cb.reception = source.cb.reception ∧ cb.state.receivesData = false := by
      split at outcome
      · rename_i reaches
        cases outcome with
        | ignored _ _ reception kept => exact ⟨reception, by rw [kept, same, refuses]⟩
        | stored _ _ receives _ _ _ =>
          rw [same, refuses] at receives
          cases receives
        | joined _ _ receives _ _ _ =>
          rw [same, refuses] at receives
          cases receives
        | finished inOrder _ fin _ _ =>
          rw [safe reaches inOrder] at fin
          cases fin
      · refine ⟨outcome.1, ?_⟩
        rcases outcome.2 with kept | ⟨closed, -⟩
        · rw [kept, refuses]
        · rw [closed]
          rfl
    have next := congrArg Receiver.receiveNext (ControlBlock.receiver_eq unchanged.1)
    have count : received (⟨source, .receive env header data, ⟨cb, source.task⟩⟩ :: past) =
      received past := received_of_eq past next
    refine ⟨?_, count.trans taken, unchanged.2⟩
    rw [count]
    simpa [allPopped, popped] using accounted.of_eq unchanged.1
  | pollRecv | send | close | senderRound | retransmitterRound | acknowledgerRound =>
    have accounted' := accounted.step (by exact trivial) (by exact trivial) advanced
    rw [← List.length_append] at accounted'
    obtain ⟨next, -, -⟩ := step_quiet (by simp) advanced
    exact ⟨accounted', (received_of_eq past next).trans taken,
      (step_receivesData (by simp) advanced).trans refuses⟩

/-- The FIN of the peer is consumed exactly once and on time. Along every run of a
connection made by a handshake in which the segments of a stream arrive in any
order and then any others, unless text overlaps a stored entry partially, is cut
from the store or ends at a remembered FIN, or a further FIN arrives in order,
`receive_next` never passes the number after the FIN, and is there once all bytes
and the FIN have arrived.

Proof: a run is in one of two phases. Until the FIN is taken the store and the count are
those of `reassembly_progress` and an early FIN is remembered; the step that takes it
reaches the last number, from which no later segment moves. At the end of the first
phase the missing position contradicts that all bytes have arrived. -/
theorem fin_consumed_once (profile : Profile) (args : NewConnection) (length : Nat)
    (scale : args.receiverWindowScale.toNat ≤ 14)
    (size : ∃ window < 2 ^ 16,
      args.receiverWindowSize.toNat = window <<< args.receiverWindowScale.toNat)
    {past : List (Transition κ ρ)} {state : Connection κ ρ}
    (run : Run profile (Connection.new args) past state)
    (arrivals : Runs.Follows (PeerArrival args.receiverSeqNo length) past)
    (safe : Runs.Follows (FinSafe profile length) past) :
    state.cb.receiver.receiveNext = args.receiverSeqNo.advanced (received past) ∧
    received past ≤ length + 1 ∧
    ((∀ position < length, Arrived args.receiverSeqNo past position) →
      FinArrived args.receiverSeqNo length past → received past = length + 1) := by
  have phase : BeforeFin args.receiverSeqNo length past state.cb ∨
      AfterFin args.receiverSeqNo length past state.cb := by
    refine Runs.follows_invariant (fun past (state : Connection κ ρ) =>
      BeforeFin args.receiverSeqNo length past state.cb ∨
        AfterFin args.receiverSeqNo length past state.cb) ?_ ?_ run
      (Runs.follows_and arrivals safe)
    · refine .inl ⟨.new args scale size, .new args, .new args, rfl, Nat.zero_le _,
        fun _ => False.elim, fun _ remembered => ?_, False.elim⟩
      cases remembered
    · rintro past source action target - ⟨arrival, safe⟩ (before | after) advanced
      · exact before.step arrival safe advanced
      · exact .inr (after.step arrival safe advanced)
  rcases phase with before | after
  · refine ⟨before.accounted.receiveNext, Nat.le_succ_of_le before.within, fun all fin => ?_⟩
    have pending := (before.pending fin).2
    have within := before.within
    exact absurd (all (received past) (by omega)) (before.gathered.missing before.tidy)
  · exact ⟨after.accounted.receiveNext, Nat.le_of_eq after.taken, fun _ _ => after.taken⟩

/-- The end of a stream of three bytes arrives first, then its beginning, then the
end again. -/
theorem fin_consumed_once_reordered :
    ∃ past state, Run .dev (Connection.sample 1000 1000 536) past state ∧
      Runs.Follows (PeerArrival (SeqNumber.ofU32 100) 3) past ∧
      Runs.Follows (FinSafe .dev 3) past ∧
      (∀ position < 3, Arrived (SeqNumber.ofU32 100) past position) ∧
      FinArrived (SeqNumber.ofU32 100) 3 past ∧ received past = 4 := by
  have executed : ∃ past state, execute .dev (Connection.sample 1000 1000 536)
      [.segment 102 1000 [3] true, .segment 100 1000 [1, 2] false, .segment 102 1000 [3] true] =
        .ok (past, state) ∧ Runs.Follows (PeerArrival (SeqNumber.ofU32 100) 3) past ∧
      Runs.Follows (FinSafe .dev 3) past ∧
      (∀ position < 3, Arrived (SeqNumber.ofU32 100) past position) ∧
      FinArrived (SeqNumber.ofU32 100) 3 past := by
    refine ⟨_, _, rfl, ⟨⟨by decide, fun early => absurd early (by decide)⟩,
      ⟨by decide, fun _ => ⟨rfl, rfl, rfl, by decide, .inr ⟨0, by decide, by decide, by decide,
        by decide, by decide⟩⟩⟩,
      ⟨by decide, fun _ => ⟨rfl, rfl, rfl, by decide, .inr ⟨2, by decide, by decide, by decide,
        by decide, by decide⟩⟩⟩, trivial⟩, ⟨?_, ?_, ?_, trivial⟩, by decide,
      .inl (.inl (.inr ⟨rfl, by decide, by decide, by decide⟩))⟩
    · exact ⟨fun early => absurd early (by decide), fun _ => by decide⟩
    · refine ⟨fun _ => ⟨fun _ _ => ?_, fun _ _ _ => by decide, fun later => absurd later (by decide)⟩,
        fun late => absurd late (by decide)⟩
      unfold Clean
      decide
    · refine ⟨fun _ => ⟨fun _ _ => ?_, fun _ _ _ => by decide, fun _ _ result inserts => ?_⟩,
        fun late => absurd late (by decide)⟩
      · unfold Clean
        decide
      · cases inserts.symm.trans rfl
        decide
  obtain ⟨past, state, executed, arrivals, safe, all, fin⟩ := executed
  have run := run_of_execute executed
  have once := fin_consumed_once .dev (NewConnection.sample 1000 1000 536) 3 (by decide)
    ⟨1000, by decide, rfl⟩ run arrivals safe
  exact ⟨past, state, run, arrivals, safe, all, fin, once.2.2 all fin⟩

/-- A FIN that arrives alone before the three bytes in front of it is left behind
when they arrive; and a second FIN after the FIN of the stream is taken as well. -/
theorem fin_left_and_fin_twice :
    (∃ past state, Run .dev (Connection.sample 1000 1000 536) past state ∧
      Runs.Follows (PeerArrival (SeqNumber.ofU32 100) 3) past ∧
      (∀ position < 3, Arrived (SeqNumber.ofU32 100) past position) ∧
      FinArrived (SeqNumber.ofU32 100) 3 past ∧
      state.cb.receiver.receiveNext = SeqNumber.ofU32 103) ∧
    (∃ past state, Run .dev (Connection.sample 1000 1000 536) past state ∧
      Runs.Follows (PeerArrival (SeqNumber.ofU32 100) 3) past ∧ received past = 5 ∧
      state.cb.receiver.receiveNext = SeqNumber.ofU32 105) := by
  constructor
  · have executed : ∃ past state, execute .dev (Connection.sample 1000 1000 536)
        [.segment 103 1000 [] true, .segment 100 1000 [1, 2, 3] false] = .ok (past, state) ∧
        Runs.Follows (PeerArrival (SeqNumber.ofU32 100) 3) past ∧
        (∀ position < 3, Arrived (SeqNumber.ofU32 100) past position) ∧
        FinArrived (SeqNumber.ofU32 100) 3 past ∧
        state.cb.receiver.receiveNext = SeqNumber.ofU32 103 := by
      refine ⟨_, _, rfl, ⟨⟨by decide, fun _ => ⟨rfl, rfl, rfl, by decide, .inr ⟨0, by decide,
        by decide, by decide, by decide, by decide⟩⟩⟩, ⟨by decide, fun _ => ⟨rfl, rfl, rfl, by decide,
        .inr ⟨3, by decide, by decide, by decide, by decide, by decide⟩⟩⟩, trivial⟩, by decide,
        .inl (.inr ⟨rfl, by decide, by decide, by decide⟩), by decide⟩
    obtain ⟨past, state, executed, rest⟩ := executed
    exact ⟨past, state, run_of_execute executed, rest⟩
  · have executed : ∃ past state, execute .dev (Connection.sample 1000 1000 536)
        [.segment 100 1000 [1, 2, 3] true, .segment 104 1000 [] true] = .ok (past, state) ∧
        Runs.Follows (PeerArrival (SeqNumber.ofU32 100) 3) past ∧ received past = 5 ∧
        state.cb.receiver.receiveNext = SeqNumber.ofU32 105 := by
      refine ⟨_, _, rfl, ⟨⟨by decide, fun early => absurd early (by decide)⟩, ⟨by decide,
        fun _ => ⟨rfl, rfl, rfl, by decide, .inr ⟨0, by decide, by decide, by decide, by decide,
        by decide⟩⟩⟩, trivial⟩, by decide, by decide⟩
    obtain ⟨past, state, executed, rest⟩ := executed
    exact ⟨past, state, run_of_execute executed, rest⟩

end Connection

end Capybara
