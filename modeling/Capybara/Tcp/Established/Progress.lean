import Capybara.Tcp.Established.Reassembly
import Capybara.Tcp.Established.StreamIntegrity

/-!
# Progress of the received stream

Seen from outside, reassembly is a set of positions that have arrived in the
window and the first position that has not. The control block keeps the first
missing position as `receive_next` and the positions beyond it as the stored
entries; `Gathered` relates the two views.

While arriving text overlaps no stored entry partially the relation is kept, so
nothing that has arrived without a gap is left in the store. The last theorem is
the shortest arrival after which it is.
-/

namespace Capybara

open OutOfOrder

variable {κ ρ : Type}

/-- Less than a turn apart, numbers counted from an origin are equal only at equal
distances. -/
theorem SeqNumber.advanced_inj (origin : SeqNumber) {here there : Nat} (near : here < 2 ^ 32)
    (near' : there < 2 ^ 32) : origin.advanced here = origin.advanced there ↔ here = there := by
  refine ⟨fun same => ?_, fun same => by rw [same]⟩
  have distance := congrArg origin.ahead same
  rwa [ahead_advanced_of_lt _ near, ahead_advanced_of_lt _ near'] at distance

/-- Which byte after a point lies at a place after the origin. -/
theorem SeqNumber.advanced_eq_iff (origin point : SeqNumber) {steps place : Nat}
    (short : steps ≤ 2 ^ 31) (near : place < 2 ^ 31) :
    point.advanced steps = origin.advanced place ↔ origin.position point + steps = place := by
  cases old : point.lt origin with
  | true =>
    obtain ⟨-, half⟩ := (lt_iff _ _).mp old
    rw [position_old old]
    conv => lhs; rhs; rw [← advanced_ahead point origin, advanced_advanced]
    rw [advanced_inj _ (by omega) (by omega)]
    omega
  | false =>
    have turn := ahead_back origin point
    have lap := ahead_lt origin point
    have half : ¬ (1 ≤ point.ahead origin ∧ point.ahead origin ≤ 2 ^ 31) := by
      rw [← lt_iff, old]
      simp
    rw [position_recent old]
    conv => lhs; lhs; rw [← advanced_ahead origin point, advanced_advanced]
    rw [advanced_inj _ (by omega) (by omega)]
    omega

namespace OutOfOrder

variable {origin : SeqNumber} {store front rest : List (SeqNumber × Buffer)} {position : Nat}

/-- Two stores side by side cover what each of them covers. -/
theorem covers_append :
    Covers origin (front ++ rest) position ↔
      Covers origin front position ∨ Covers origin rest position := by
  simp only [Covers, List.mem_append, or_and_right, exists_or]

/-- The positions covered, seen from further on. -/
theorem covers_advanced {count : Nat} (short : ∀ entry ∈ store, count ≤ first origin entry) :
    Covers (origin.advanced count) store position ↔ Covers origin store (count + position) := by
  unfold Covers
  refine exists_congr fun entry => and_congr_right fun member => ?_
  have before := short entry member
  have wide : past origin entry = first origin entry + entry.2.length := rfl
  rw [first_advanced before, past_advanced before]
  omega

end OutOfOrder

namespace ControlBlock

variable {cb cb' : ControlBlock κ ρ} {header : TcpHeader} {data : Buffer}

/-- The bytes of a segment whose numbers lie in the window are its text. -/
theorem carries_iff (settled : cb.Settled) (short : sequenceLength header data ≤ 2 ^ 31)
    (plain : header.syn = false) {place : Nat} (inside : place < cb.window) :
    (∃ i < data.length, header.seqNum.advanced i = cb.receiver.receiveNext.advanced place) ↔
      (cb.textInWindow header data).offset ≤ place ∧
        place < (cb.textInWindow header data).offset + (cb.textInWindow header data).bytes.length := by
  have small := settled.window_lt
  have bound : data.length ≤ 2 ^ 31 := by
    simp only [sequenceLength] at short
    omega
  simp only [textInWindow, textPosition, plain, Bool.toNat_false, List.length_take, List.length_drop]
  constructor
  · rintro ⟨i, carried, same⟩
    rw [SeqNumber.advanced_eq_iff _ _ (by omega) (by omega)] at same
    omega
  · intro covered
    refine ⟨((place : Int) - cb.receiver.receiveNext.position header.seqNum).toNat, by omega, ?_⟩
    rw [SeqNumber.advanced_eq_iff _ _ (by omega) (by omega)]
    omega

/-- A segment with text in the window is acceptable. -/
theorem acceptable_of_text (plain : header.syn = false)
    (some : 0 < (cb.textInWindow header data).length) : cb.Acceptable header data := by
  simp only [Text.length, textInWindow, textPosition, plain, Bool.toNat_false, List.length_take,
    List.length_drop] at some
  simp only [Acceptable, sequenceLength, plain, Bool.toNat_false]
  cases fin : header.fin with
  | false =>
    simp only [fin, Bool.false_and, Bool.toNat_false] at some
    simp only [Bool.toNat_false]
    omega
  | true =>
    simp only [Bool.toNat_true]
    by_cases inside : 0 ≤ cb.receiver.receiveNext.position header.seqNum + data.length ∧
        cb.receiver.receiveNext.position header.seqNum + data.length < cb.window
    · omega
    · have outside : (header.fin &&
          decide (0 ≤ cb.receiver.receiveNext.position header.seqNum + ↑(0 : Nat) + data.length) &&
          decide (cb.receiver.receiveNext.position header.seqNum + ↑(0 : Nat) + data.length <
            cb.window)) = false := by
        simp
        omega
      rw [outside] at some
      simp only [Bool.toNat_false] at some
      omega

/-- A segment of data that a state receiving data takes in order or stores: no
control flag, and an acknowledgement of nothing unsent. -/
structure DataSegment (cb : ControlBlock κ ρ) (header : TcpHeader) (data : Buffer) : Prop where
  syn : header.syn = false
  rst : header.rst = false
  fin : header.fin = false
  ack : header.ack = true
  known : cb.sender.acksUnsent header = false
  receives : cb.state.receivesData = true
  short : sequenceLength header data ≤ 2 ^ 31

/-- A segment with text in the window goes all the way through `receive`. -/
theorem DataSegment.reaches (segment : cb.DataSegment header data)
    (some : (cb.textInWindow header data).bytes ≠ []) : cb.ReachesText header data := by
  have occupied : 0 < (cb.textInWindow header data).length :=
    Nat.lt_of_lt_of_le (List.length_pos_iff.mpr some) (Nat.le_add_right _ _)
  refine ⟨⟨acceptable_of_text segment.syn occupied, segment.rst, ?_, segment.ack⟩, segment.known⟩
  rw [segment.syn, Bool.false_and]

end ControlBlock

/-- The text holds the byte at a position, `next` being the position of
`receive_next`. -/
def Text.Holds (text : Text) (next position : Nat) : Prop :=
  next + text.offset ≤ position ∧ position < next + text.offset + text.bytes.length

/-- An empty text holds no position. -/
theorem Text.not_holds {text : Text} (none : text.bytes = []) (next position : Nat) :
    ¬ text.Holds next position := by
  rintro ⟨starts, stops⟩
  rw [none, List.length_nil] at stops
  omega

/-- The positions that have arrived, and `next` as the first that has not, as the
control block keeps them. -/
structure Gathered (next : Nat) (arrived : Nat → Prop) (cb : ControlBlock κ ρ) : Prop where
  below : ∀ position < next, arrived position
  above : ∀ position, arrived (next + position) ↔
    Covers cb.receiver.receiveNext cb.outOfOrder position

namespace Gathered

variable {next : Nat} {arrived arrived' : Nat → Prop} {cb cb' : ControlBlock κ ρ} {text : Text}

/-- With a tidy store the first missing position has not arrived. -/
theorem missing (gathered : Gathered next arrived cb) (tidy : cb.TidyStore) : ¬ arrived next := by
  rw [show next = next + 0 from rfl, gathered.above]
  rintro ⟨entry, member, starts, -⟩
  have positive := tidy.ahead entry member
  omega

/-- What has been gathered depends on what has arrived, on the number that is expected and on
the store. -/
theorem congr (gathered : Gathered next arrived cb) (same : ∀ position, arrived' position ↔ arrived position)
    (receiveNext : cb'.receiver.receiveNext = cb.receiver.receiveNext)
    (store : cb'.outOfOrder = cb.outOfOrder) : Gathered next arrived' cb' := by
  refine ⟨fun position before => (same _).mpr (gathered.below position before), fun position => ?_⟩
  rw [same, receiveNext, store]
  exact gathered.above position

/-- Stored text adds its positions. -/
theorem stored (gathered : Gathered next arrived cb) (tidy : cb.TidyStore) (settled : cb.Settled)
    (later : 0 < text.offset)
    (fits : text.offset + text.bytes.length ≤ cb.window)
    (clean : ∀ entry ∈ cb.outOfOrder, Clean cb.receiver.receiveNext text.offset
      (text.offset + text.bytes.length) entry)
    {profile : Profile} (uncut : Uncut profile cb.reception text) {store : List (SeqNumber × Buffer)}
    (inserts : cb.reception.storeText profile text = .ok store)
    (receiver : cb'.receiver = cb.receiver) (stores : cb'.outOfOrder = store) :
    Gathered next (fun position => arrived position ∨ text.Holds next position) cb' := by
  have covers := (storeText_clean profile cb.reception text tidy settled.window_lt later fits
    (fun _ => clean) inserts).2 uncut
  refine ⟨fun position before => .inl (gathered.below position before), fun position => ?_⟩
  rw [receiver, stores]
  refine Iff.trans (or_congr (gathered.above position) ?_) (covers position).symm
  unfold Text.Holds
  omega

/-- In-order text moves the first missing position past itself and past the
stored run that continues it. -/
theorem joined (gathered : Gathered next arrived cb) (tidy : cb.TidyStore) (settled : cb.Settled)
    (inOrder : text.offset = 0) (fits : text.bytes.length ≤ cb.window)
    (before : ∀ entry ∈ cb.outOfOrder, text.bytes.length ≤ first cb.receiver.receiveNext entry)
    {front rest : List (SeqNumber × Buffer)} {fin : Bool}
    (joins : cb.reception.Joins text front rest fin)
    (receiveNext : cb'.receiver.receiveNext =
      cb.receiver.receiveNext.advanced (text.bytes.length + storedLength front))
    (stores : cb'.outOfOrder = rest) :
    Gathered (next + (text.bytes.length + storedLength front))
      (fun position => arrived position ∨ text.Holds next position) cb' := by
  obtain ⟨-, further, ends, covered⟩ := tidy.joins settled fits before joins
  have split : cb.outOfOrder = front ++ rest := joins.store
  have above (position : Nat) := gathered.above position
  simp only [split, covers_append] at above
  unfold Text.Holds
  rw [inOrder]
  constructor
  · intro position below
    by_cases old : position < next
    · exact .inl (gathered.below position old)
    by_cases own : position < next + text.bytes.length
    · exact .inr (by omega)
    · left
      rw [show position = next + (position - next) by omega, above]
      exact .inl (covered _ (by omega) (by omega))
  · intro position
    rw [receiveNext, stores, covers_advanced fun entry member => Nat.le_of_lt (further entry member),
      Nat.add_assoc, above]
    constructor
    · rintro ((⟨entry, member, -, inside⟩ | behind) | own)
      · have := ends entry member
        omega
      · exact behind
      · omega
    · exact fun behind => .inl (.inr behind)

/-- Text that overlaps nothing and takes no FIN adds its positions and moves the
first missing position as far as what has arrived allows. -/
theorem outcome (gathered : Gathered next arrived cb) (tidy : cb.TidyStore) (settled : cb.Settled)
    (fits : text.bytes ≠ [] → text.offset + text.bytes.length ≤ cb.window)
    (free : cb.OverlapFree text) {profile : Profile}
    (uncut : 0 < text.offset → text.bytes ≠ [] → Uncut profile cb.reception text) {state : State}
    (receives : cb.state.receivesData = true) (same : state.receivesData = cb.state.receivesData)
    (unfinished : cb'.state.receivesData = true) (outcome : cb.TextOutcome profile text state cb') :
    Gathered (next + cb.receiver.receiveNext.ahead cb'.receiver.receiveNext)
      (fun position => arrived position ∨ text.Holds next position) cb' := by
  have small := settled.window_lt
  have nothing (none : text.bytes = []) (position : Nat) :
      arrived position ∨ text.Holds next position ↔ arrived position :=
    or_iff_left (Text.not_holds none next position)
  cases outcome with
  | ignored none _ reception _ =>
    have none : text.bytes = [] := by
      rw [same, receives] at none
      rcases none with empty | refuses
      · exact List.eq_nil_of_length_eq_zero (Nat.eq_zero_of_add_eq_zero empty).1
      · cases refuses
    rw [ControlBlock.receiver_eq reception, SeqNumber.ahead_self]
    exact gathered.congr (nothing none) (by rw [ControlBlock.receiver_eq reception])
      (ControlBlock.outOfOrder_eq reception)
  | @stored store later _ _ inserts reception _ =>
    have receiver : cb'.receiver = cb.receiver := congrArg Reception.receiver reception
    have stores : cb'.outOfOrder = store := congrArg Reception.outOfOrder reception
    rw [receiver, SeqNumber.ahead_self]
    by_cases none : text.bytes = []
    · rw [Reception.storeText, if_pos none] at inserts
      cases inserts
      exact gathered.congr (nothing none) (by rw [receiver]) stores
    · exact gathered.stored tidy settled later (fits none)
        (fun entry member => (free receives none entry member).1 later) (uncut later none) inserts
        receiver stores
  | @joined front rest fin inOrder some _ joins reception taken =>
    cases fin with
    | true =>
      rw [stateAfterFin_receivesData taken.1] at unfinished
      cases unfinished
    | false =>
      have before (entry : SeqNumber × Buffer) (member : entry ∈ cb.outOfOrder) :=
        (free receives some entry member).2 inOrder
      have within : text.bytes.length ≤ cb.window := by
        have := fits some
        omega
      have reach := (tidy.joins settled within before joins).1
      have moved : cb'.receiver.receiveNext =
          cb.receiver.receiveNext.advanced (text.bytes.length + storedLength front) :=
        congrArg (fun after => after.receiver.receiveNext) reception
      have joined := gathered.joined tidy settled inOrder within before joins moved
        (congrArg Reception.outOfOrder reception)
      rw [moved, SeqNumber.ahead_advanced_of_lt _ (by omega)]
      exact joined
  | finished _ _ _ _ taken =>
    rw [stateAfterFin_receivesData taken.1] at unfinished
    cases unfinished

end Gathered

/-- At the start nothing has arrived. -/
theorem Gathered.new [CongestionControl κ] [RtoCalculator ρ] (args : NewConnection) :
    Gathered 0 (fun _ => False) (ControlBlock.new args : ControlBlock κ ρ) := by
  refine ⟨fun _ before => absurd before (Nat.not_lt_zero _), fun position => ⟨False.elim, ?_⟩⟩
  rintro ⟨entry, member, -⟩
  cases member

/-- Without a FIN, carried or remembered, the state stays and none is remembered. -/
theorem ControlBlock.TextOutcome.no_fin {profile : Profile} {cb cb' : ControlBlock κ ρ}
    {text : Text} {state : State} (outcome : cb.TextOutcome profile text state cb')
    (plain : text.fin = false) (forgotten : cb.outOfOrderFin = none) :
    cb'.state = state ∧ cb'.outOfOrderFin = none := by
  cases outcome with
  | ignored _ _ reception kept => exact ⟨kept, (outOfOrderFin_eq reception).trans forgotten⟩
  | stored _ _ _ _ reception kept =>
    refine ⟨kept, (congrArg Reception.outOfOrderFin reception).trans ?_⟩
    simp only [Reception.rememberFin, plain]
    exact forgotten
  | joined _ _ _ joins reception taken =>
    rw [FinTaken, joins.no_fin plain forgotten] at taken
    exact ⟨taken, (congrArg Reception.outOfOrderFin reception).trans forgotten⟩
  | finished _ _ fin _ _ =>
    rw [plain] at fin
    cases fin

namespace Connection

/-- The step receives, in the window, the byte at a position counted from `base`,
after `next` numbers have been received. -/
def Carried (base : SeqNumber) (next : Nat) (transition : Transition κ ρ) (position : Nat) : Prop :=
  match transition.action with
  | .receive _ header data =>
    next ≤ position ∧ position < next + transition.source.cb.window ∧
      ∃ i < data.length, header.seqNum.advanced i = base.advanced position
  | _ => False

instance (base : SeqNumber) (next : Nat) (transition : Transition κ ρ) (position : Nat) :
    Decidable (Carried base next transition position) :=
  match transition with
  | ⟨source, .receive _ header data, _⟩ => inferInstanceAs (Decidable (next ≤ position ∧
      position < next + source.cb.window ∧
        ∃ i < data.length, header.seqNum.advanced i = base.advanced position))
  | ⟨_, .pollRecv _, _⟩ | ⟨_, .send _ _, _⟩ | ⟨_, .close _, _⟩ | ⟨_, .senderRound _ _, _⟩
  | ⟨_, .retransmitterRound _, _⟩ | ⟨_, .acknowledgerRound _, _⟩ => .isFalse id

/-- The positions whose bytes have arrived in the window so far. -/
def Arrived (base : SeqNumber) : List (Transition κ ρ) → Nat → Prop
  | [], _ => False
  | transition :: past, position =>
    Arrived base past position ∨ Carried base (received past) transition position

instance arrivedDecidable (base : SeqNumber) : (past : List (Transition κ ρ)) → (position : Nat) →
    Decidable (Arrived base past position)
  | [], _ => .isFalse id
  | transition :: past, position =>
    have := arrivedDecidable base past position
    inferInstanceAs (Decidable (Arrived base past position ∨
      Carried base (received past) transition position))

/-- What a step carries in the window is the text of its segment. -/
theorem carried_iff {base : SeqNumber} {received popped : Nat} {source : Connection κ ρ}
    (target : Connection κ ρ) (accounted : Accounted base received popped source.cb) (env : Env)
    {header : TcpHeader} {data : Buffer} (short : sequenceLength header data ≤ 2 ^ 31) (plain : header.syn = false)
    (position : Nat) :
    Carried base received ⟨source, .receive env header data, target⟩ position ↔
      (source.cb.textInWindow header data).Holds received position := by
  have carries {place : Nat} (inside : place < source.cb.window) :=
    ControlBlock.carries_iff accounted.settled short plain inside
  have place {position : Nat} (after : received ≤ position) :
      base.advanced position = source.cb.receiver.receiveNext.advanced (position - received) := by
    rw [accounted.receiveNext, SeqNumber.advanced_advanced]
    congr 1
    omega
  simp only [Carried, Text.Holds]
  constructor
  · rintro ⟨after, inside, carried⟩
    rw [place after, carries (by omega)] at carried
    omega
  · rintro ⟨after, before⟩
    have fits := source.cb.text_fits header data
      (List.ne_nil_of_length_pos (by omega))
    refine ⟨by omega, by omega, ?_⟩
    rw [place (by omega), carries (by omega)]
    omega

/-- Nothing is carried by a step that receives no segment. -/
theorem not_carried {base : SeqNumber} {next : Nat} {transition : Transition κ ρ}
    (other : ∀ env header data, transition.action ≠ .receive env header data) (position : Nat) :
    ¬ Carried base next transition position := by
  unfold Carried
  split
  · rename_i env header data action
    exact absurd action (other env header data)
  · exact id

/-- Arriving segments carry data of the peer, and the store is never cut. -/
def DataArrival (profile : Profile) (c : Connection κ ρ) : Action → Prop
  | .receive _ header data => c.cb.DataSegment header data ∧
    (0 < (c.cb.textInWindow header data).offset → (c.cb.textInWindow header data).bytes ≠ [] →
      Uncut profile c.cb.reception (c.cb.textInWindow header data))
  | _ => True

/-- Arriving text overlaps no stored entry partially. -/
def ApartArrival (c : Connection κ ρ) : Action → Prop
  | .receive _ header data => c.cb.OverlapFree (c.cb.textInWindow header data)
  | _ => True

/-- The state of reassembly along a run of data segments. -/
structure Reassembled (base : SeqNumber) (past : List (Transition κ ρ)) (cb : ControlBlock κ ρ) :
    Prop where
  accounted : Accounted base (received past) (allPopped past).length cb
  tidy : cb.TidyStore
  gathered : Gathered (received past) (Arrived base past) cb
  noFin : cb.outOfOrderFin = none

/-- The count of received numbers moves with `receive_next` only. -/
theorem received_of_eq (past : List (Transition κ ρ)) {transition : Transition κ ρ}
    (same : transition.target.cb.receiver.receiveNext = transition.source.cb.receiver.receiveNext) :
    received (transition :: past) = received past := by
  change received past + transition.source.cb.receiver.receiveNext.ahead
    transition.target.cb.receiver.receiveNext = _
  rw [same, SeqNumber.ahead_self]
  rfl

variable [CongestionControl κ] [RtoCalculator ρ]

/-- Only an arriving segment moves `receive_next` or touches the store. -/
theorem step_quiet {profile : Profile} {source target : Connection κ ρ} {action : Action}
    (other : ∀ env header data, action ≠ .receive env header data)
    (advanced : source.step profile action = .ok target) :
    target.cb.receiver.receiveNext = source.cb.receiver.receiveNext ∧
    target.cb.outOfOrder = source.cb.outOfOrder ∧
    target.cb.outOfOrderFin = source.cb.outOfOrderFin := by
  cases action with
  | receive env header data => exact absurd rfl (other env header data)
  | pollRecv waker =>
    cases advanced
    simp only [ControlBlock.pollRecv, Receiver.pop]
    cases source.cb.receiver.recvQueue <;> exact ⟨rfl, rfl, rfl⟩
  | send | close | senderRound | retransmitterRound | acknowledgerRound =>
    have same := (step_undisturbed rfl advanced).reception
    exact ⟨congrArg Receiver.receiveNext (ControlBlock.receiver_eq same),
      ControlBlock.outOfOrder_eq same, ControlBlock.outOfOrderFin_eq same⟩

/-- Every action keeps the state of reassembly. -/
theorem Reassembled.step {profile : Profile} {base : SeqNumber} {past : List (Transition κ ρ)}
    {source target : Connection κ ρ} {action : Action} (before : Reassembled base past source.cb)
    (arrival : DataArrival profile source action) (apart : ApartArrival source action)
    (advanced : source.step profile action = .ok target) :
    Reassembled base (⟨source, action, target⟩ :: past) target.cb := by
  obtain ⟨accounted, tidy, gathered, noFin⟩ := before
  have quiet (other : ∀ env header data, action ≠ .receive env header data) (position : Nat) :
      Arrived base (⟨source, action, target⟩ :: past) position ↔ Arrived base past position :=
    or_iff_left (not_carried other position)
  have tidies : TidyArrival source action := by
    cases action with
    | receive env header data =>
      obtain ⟨segment, -⟩ := arrival
      refine ⟨segment.short, fun _ => ⟨apart, .of_no_fin ?_ noFin⟩⟩
      simp [ControlBlock.textInWindow, segment.fin]
    | pollRecv | send | close | senderRound | retransmitterRound | acknowledgerRound => trivial
  obtain ⟨accounted', tidy'⟩ := accounted.tidy_step tidy tidies advanced
  rw [← List.length_append] at accounted'
  cases action with
  | receive env header data =>
    obtain ⟨cb, received', advanced⟩ := bind_ok.mp advanced
    cases advanced
    obtain ⟨segment, uncut⟩ := arrival
    have plain : (source.cb.textInWindow header data).fin = false := by
      simp [ControlBlock.textInWindow, segment.fin]
    have same := source.cb.stateAfterAck_receivesData header
    have carried (position : Nat) := carried_iff ⟨cb, source.task⟩ accounted env
      segment.short segment.syn position
    have outcome := (ControlBlock.receive_cases accounted.settled segment.short received').text
    split at outcome
    · obtain ⟨kept, noFin'⟩ := outcome.no_fin plain noFin
      refine ⟨accounted', tidy', ?_, noFin'⟩
      refine (gathered.outcome tidy accounted.settled (source.cb.text_fits header data) apart uncut
        segment.receives same ?_ outcome).congr ?_ rfl rfl
      · rw [kept, same, segment.receives]
      · exact fun position => or_congr_right (carried position)
    · rename_i stops
      have none : (source.cb.textInWindow header data).bytes = [] := by
        by_contra some
        exact stops (segment.reaches some)
      have next := congrArg Receiver.receiveNext (ControlBlock.receiver_eq outcome.1)
      refine ⟨accounted', tidy', ?_, (ControlBlock.outOfOrderFin_eq outcome.1).trans noFin⟩
      rw [received_of_eq past next]
      refine gathered.congr (fun position => ?_) next (ControlBlock.outOfOrder_eq outcome.1)
      exact or_iff_left (fun carries => Text.not_holds none _ _ ((carried position).mp carries))
  | pollRecv | send | close | senderRound | retransmitterRound | acknowledgerRound =>
    obtain ⟨next, store, fin⟩ := step_quiet (by simp) advanced
    refine ⟨accounted', tidy', ?_, fin.trans noFin⟩
    rw [received_of_eq past next]
    exact gathered.congr (quiet (by simp)) next store

/-- Reassembly progress. Along every run of a connection made by a handshake in
which the arriving segments carry data, none is cut from the store and none
overlaps a stored entry partially, `receive_next` is the end of the longest run
of positions that have arrived in the window.

Proof: `Reassembled` is kept by every step. Besides the counts it says that the
positions that have arrived are those below the count and those that the store covers. A
tidy store covers nothing at the count itself, so that the run of positions ends there. -/
theorem reassembly_progress (profile : Profile) (args : NewConnection)
    (scale : args.receiverWindowScale.toNat ≤ 14)
    (size : ∃ window < 2 ^ 16,
      args.receiverWindowSize.toNat = window <<< args.receiverWindowScale.toNat)
    {past : List (Transition κ ρ)} {state : Connection κ ρ}
    (run : Run profile (Connection.new args) past state)
    (arrivals : Runs.Meets (DataArrival profile) past) (apart : Runs.Meets ApartArrival past) :
    state.cb.receiver.receiveNext = args.receiverSeqNo.advanced (received past) ∧
    (∀ position < received past, Arrived args.receiverSeqNo past position) ∧
    ¬ Arrived args.receiverSeqNo past (received past) := by
  have reassembled : Reassembled args.receiverSeqNo past state.cb := by
    refine Runs.run_invariant (fun past (state : Connection κ ρ) =>
      Reassembled args.receiverSeqNo past state.cb) ?_ ?_ run (Runs.meets_and arrivals apart)
    · exact ⟨.new args scale size, .new args, .new args, rfl⟩
    · rintro past source action target - ⟨arrival, apart⟩ before advanced
      exact before.step arrival apart advanced
  exact ⟨reassembled.accounted.receiveNext, reassembled.gathered.below,
    reassembled.gathered.missing reassembled.tidy⟩

/-- Two segments out of order, and a third that joins one of them: the fifth
position is missing. -/
theorem reassembly_progress_reordered :
    ∃ past state, Run .dev (Connection.sample 1000 1000 536) past state ∧
      Runs.Meets (DataArrival .dev) past ∧ Runs.Meets ApartArrival past ∧ received past = 4 ∧
      (∀ position < 4, Arrived (SeqNumber.ofU32 100) past position) ∧
      ¬ Arrived (SeqNumber.ofU32 100) past 4 := by
  have executed : ∃ past state, execute .dev (Connection.sample 1000 1000 536)
      [.segment 106 1000 [7] false, .segment 102 1000 [3, 4] false,
        .segment 100 1000 [1, 2] false] = .ok (past, state) ∧
        Runs.Meets (DataArrival .dev) past ∧ Runs.Meets ApartArrival past ∧ received past = 4 := by
    refine ⟨_, _, rfl, ?_, ?_, by decide⟩
    · refine (Runs.meets_cons _ _ _).mpr ⟨?_, (Runs.meets_cons _ _ _).mpr ⟨?_,
        (Runs.meets_cons _ _ _).mpr ⟨?_, Runs.meets_nil _⟩⟩⟩
      all_goals
        refine ⟨⟨rfl, rfl, rfl, rfl, by decide, rfl, by decide⟩, fun _ _ result inserts => ?_⟩
        cases inserts.symm.trans rfl
        decide
    · refine (Runs.meets_cons _ _ _).mpr ⟨?_, (Runs.meets_cons _ _ _).mpr ⟨?_,
        (Runs.meets_cons _ _ _).mpr ⟨?_, Runs.meets_nil _⟩⟩⟩
      all_goals
        refine fun _ _ => ?_
        unfold Clean
        decide
  obtain ⟨past, state, executed, arrivals, apart, total⟩ := executed
  have run := run_of_execute executed
  have progress := reassembly_progress .dev (NewConnection.sample 1000 1000 536) (by decide)
    ⟨1000, by decide, rfl⟩ run arrivals apart
  rw [total] at progress
  exact ⟨past, state, run, arrivals, apart, total, progress.2⟩

/-- Five bytes stored, then in-order text that covers two of them: all ten have
arrived, and `receive_next` stays after the seventh. -/
theorem reassembly_stuck_overlapping :
    ∃ past state, Run .dev (Connection.sample 1000 1000 536) past state ∧
      Runs.Meets (DataArrival .dev) past ∧ received past = 7 ∧
      state.cb.receiver.receiveNext = SeqNumber.ofU32 107 ∧
      ∀ position < 10, Arrived (SeqNumber.ofU32 100) past position := by
  have executed : ∃ past state, execute .dev (Connection.sample 1000 1000 536)
      [.segment 105 1000 [6, 7, 8, 9, 10] false, .segment 100 1000 [1, 2, 3, 4, 5, 6, 7] false] =
        .ok (past, state) ∧ Runs.Meets (DataArrival .dev) past ∧ received past = 7 ∧
      state.cb.receiver.receiveNext = SeqNumber.ofU32 107 ∧
      ∀ position < 10, Arrived (SeqNumber.ofU32 100) past position := by
    refine ⟨_, _, rfl, ?_, by decide, by decide, fun position before => ?_⟩
    · refine (Runs.meets_cons _ _ _).mpr ⟨?_, (Runs.meets_cons _ _ _).mpr ⟨?_, Runs.meets_nil _⟩⟩
      all_goals
        refine ⟨⟨rfl, rfl, rfl, rfl, by decide, rfl, by decide⟩, fun _ _ result inserts => ?_⟩
        cases inserts.symm.trans rfl
        decide
    · revert position
      decide
  obtain ⟨past, state, executed, rest⟩ := executed
  exact ⟨past, state, run_of_execute executed, rest⟩

end Connection

end Capybara
