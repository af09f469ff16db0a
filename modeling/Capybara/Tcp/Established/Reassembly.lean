import Capybara.Tcp.Established.WindowAccounting

/-!
# Reassembly of the received stream

`receive_data` drains only the front entry of the out-of-order store, and only
when it starts exactly at `receive_next`. This is enough while the store is
tidy: sorted, free of overlap, and ahead of `receive_next`. The store stays tidy
as long as arriving text overlaps no entry partially and in-order text does not
run past the start of an entry; then `receive_next` is always the end of the
longest run of bytes received so far.

Neither condition is enforced by the code. The two theorems below are followed
by the shortest arrivals that break them.
-/

namespace Capybara

open OutOfOrder

variable {κ ρ : Type}

/-- A run of entries laid from a position on, at the front of a tidy store. -/
theorem laid_tidy {origin : SeqNumber} {limit here : Nat} {front rest : List (SeqNumber × Buffer)}
    (tidy : Tidy origin limit (front ++ rest)) (close : limit < 2 ^ 31) (near : here ≤ limit)
    (laid : Laid (origin.advanced here) front)
    (after : ∀ entry ∈ front ++ rest, here ≤ first origin entry) :
    here + storedLength front ≤ limit ∧
    (∀ entry ∈ rest, here + storedLength front ≤ first origin entry) ∧
    (∀ entry ∈ front, past origin entry ≤ here + storedLength front) ∧
    (∀ position, here ≤ position → position < here + storedLength front →
      Covers origin front position) := by
  induction front generalizing here with
  | nil => exact ⟨by simpa using near, by simpa using after, by simp, fun position above below => by
      rw [storedLength_nil] at below; omega⟩
  | cons entry front inductionHypothesis =>
    obtain ⟨starts, laid⟩ := laid
    have place : first origin entry = here := by
      rw [first, starts, SeqNumber.ahead_advanced_of_lt _ (by omega)]
    have bounds : past origin entry = here + entry.2.length := by
      rw [← place]
      rfl
    have within := tidy.within entry (by simp)
    have ordered := (List.pairwise_cons.mp tidy.ordered).1
    rw [SeqNumber.advanced_advanced] at laid
    obtain ⟨reach, further, ends, covered⟩ := inductionHypothesis
      (tidy.sublist (List.sublist_cons_self ..)) (show here + entry.2.length ≤ limit by omega) laid
      (fun later member => by have := ordered later member; omega)
    rw [storedLength_cons]
    refine ⟨by omega, fun later member => by have := further later member; omega, ?_, ?_⟩
    · intro earlier member
      obtain rfl | member := List.mem_cons.mp member
      · omega
      · have := ends earlier member
        omega
    · intro position above below
      by_cases own : position < here + entry.2.length
      · exact ⟨entry, List.mem_cons_self .., by omega, by omega⟩
      · obtain ⟨later, member, starts, stops⟩ := covered position (by omega) (by omega)
        exact ⟨later, List.mem_cons_of_mem _ member, starts, stops⟩

/-- Without a FIN, carried or remembered, none is taken. -/
theorem Reception.Joins.no_fin {before : Reception} {text : Text}
    {front rest : List (SeqNumber × Buffer)} {fin : Bool}
    (joins : before.Joins text front rest fin) (plain : text.fin = false)
    (none : before.outOfOrderFin = none) : fin = false := by
  rw [joins.fin, plain, none]
  simp

namespace ControlBlock

/-- The out-of-order store is tidy, seen from `receive_next`. -/
def TidyStore (cb : ControlBlock κ ρ) : Prop :=
  Tidy cb.receiver.receiveNext cb.window cb.outOfOrder

/-- In a state that receives data, the text overlaps no stored entry partially
if it is out of order, and ends before every stored entry if it is in order. -/
def OverlapFree (cb : ControlBlock κ ρ) (text : Text) : Prop :=
  cb.state.receivesData = true → text.bytes ≠ [] → ∀ entry ∈ cb.outOfOrder,
    (0 < text.offset → Clean cb.receiver.receiveNext text.offset
      (text.offset + text.bytes.length) entry) ∧
    (text.offset = 0 → text.bytes.length ≤ first cb.receiver.receiveNext entry)

/-- No stored entry starts directly after a FIN that is taken: one that follows
in-order text and the stored run continuing it, or one without text. -/
def FinGap (cb : ControlBlock κ ρ) (text : Text) : Prop :=
  text.offset = 0 →
    (cb.state.receivesData = true → text.bytes ≠ [] →
      ∀ front rest fin, cb.reception.Joins text front rest fin → fin = true →
        ∀ entry ∈ rest, first cb.receiver.receiveNext entry ≠
          text.bytes.length + storedLength front + 1) ∧
    (text.bytes = [] ∨ cb.state.receivesData = false → text.fin = true →
      ∀ entry ∈ cb.outOfOrder, first cb.receiver.receiveNext entry ≠ 1)

variable {cb cb' : ControlBlock κ ρ} {text : Text} {front rest : List (SeqNumber × Buffer)}
  {fin : Bool}

/-- Without a FIN there is no gap in front of it. -/
theorem FinGap.of_no_fin (plain : text.fin = false) (none : cb.outOfOrderFin = none) :
    cb.FinGap text := by
  refine fun _ => ⟨fun _ _ front rest fin joins taken => ?_, fun _ taken => ?_⟩
  · rw [joins.no_fin plain none] at taken
    cases taken
  · rw [plain] at taken
    cases taken

/-- In-order text that ends before every stored entry joins a run of the tidy
store; what remains lies further on. -/
theorem TidyStore.joins (tidy : cb.TidyStore) (settled : cb.Settled)
    (fits : text.bytes.length ≤ cb.window)
    (before : ∀ entry ∈ cb.outOfOrder, text.bytes.length ≤ first cb.receiver.receiveNext entry)
    (joins : cb.reception.Joins text front rest fin) :
    text.bytes.length + storedLength front ≤ cb.window ∧
    (∀ entry ∈ rest, text.bytes.length + storedLength front < first cb.receiver.receiveNext entry) ∧
    (∀ entry ∈ front, past cb.receiver.receiveNext entry ≤
      text.bytes.length + storedLength front) ∧
    (∀ position, text.bytes.length ≤ position → position < text.bytes.length + storedLength front →
      Covers cb.receiver.receiveNext front position) := by
  have small := settled.window_lt
  have split : cb.outOfOrder = front ++ rest := joins.store
  unfold TidyStore at tidy
  rw [split] at tidy before
  obtain ⟨reach, further, ends, covered⟩ := laid_tidy tidy small fits joins.laid before
  refine ⟨reach, ?_, ends, covered⟩
  -- The drain stopped at the head of the rest, and the others lie behind the head.
  cases rest with
  | nil => simp
  | cons head rest =>
    have stops := joins.stops head (by simp)
    have atLeast := further head (List.mem_cons_self ..)
    have apart : first cb.receiver.receiveNext head ≠ text.bytes.length + storedLength front := by
      intro same
      apply stops
      rw [← same]
      exact (SeqNumber.advanced_ahead _ _).symm
    intro entry member
    obtain rfl | member := List.mem_cons.mp member
    · omega
    · have ordered := (List.pairwise_cons.mp (List.pairwise_append.mp tidy.ordered).2.1).1 entry member
      have wide : past cb.receiver.receiveNext head =
        first cb.receiver.receiveNext head + head.2.length := rfl
      omega

/-- What the source relies on: the stored segments are sorted by starting sequence
number, hold no byte twice, are not empty, and start after `receive_next`. -/
structure StoreSound (cb : ControlBlock κ ρ) : Prop where
  sorted : cb.outOfOrder.Pairwise fun earlier later => earlier.1.lt later.1 = true
  disjoint : cb.outOfOrder.Pairwise fun earlier later =>
    ∀ i < earlier.2.length, ∀ j < later.2.length, earlier.1.advanced i ≠ later.1.advanced j
  occupied : ∀ entry ∈ cb.outOfOrder, entry.2 ≠ []
  ahead : ∀ entry ∈ cb.outOfOrder, cb.receiver.receiveNext.lt entry.1 = true

/-- A tidy store inside a window is sound. -/
theorem TidyStore.sound (tidy : cb.TidyStore) (settled : cb.Settled) : cb.StoreSound := by
  have small := settled.window_lt
  have wide (entry : SeqNumber × Buffer) : past cb.receiver.receiveNext entry =
    first cb.receiver.receiveNext entry + entry.2.length := rfl
  -- A byte of an entry is as far from `receive_next` as its place in the entry says.
  have place (entry : SeqNumber × Buffer) (member : entry ∈ cb.outOfOrder) {i : Nat}
      (inside : i < entry.2.length) : cb.receiver.receiveNext.ahead (entry.1.advanced i) =
        first cb.receiver.receiveNext entry + i := by
    have within := tidy.within entry member
    have := wide entry
    rw [SeqNumber.ahead_to_advanced (by change first _ entry + _ < _; omega)]
    rfl
  refine ⟨?_, ?_, ?_, ?_⟩
  · refine tidy.ordered.imp_of_mem fun {earlier later} here there ordered => ?_
    have occupied := tidy.occupied earlier here
    have within := tidy.within later there
    have := wide earlier
    have := wide later
    rw [SeqNumber.lt_iff_of_near cb.receiver.receiveNext]
    · change first _ earlier < first _ later
      omega
    · change first _ earlier < first _ later + _
      omega
    · change first _ later ≤ first _ earlier + _
      omega
  · refine tidy.ordered.imp_of_mem fun {earlier later} here there ordered i before j _ same => ?_
    have := wide earlier
    have distance := congrArg cb.receiver.receiveNext.ahead same
    rw [place earlier here before, place later there ‹_›] at distance
    omega
  · intro entry member
    exact List.length_pos_iff.mp (tidy.occupied entry member)
  · intro entry member
    have positive := tidy.ahead entry member
    have within := tidy.within entry member
    have := wide entry
    rw [SeqNumber.lt_iff]
    change 1 ≤ first _ entry ∧ first _ entry ≤ _
    omega

/-- A FIN counted past the right edge makes the window field impossible. -/
theorem Granted.hdrWindowSize_past (granted : cb.Granted)
    (excess : cb.unread = cb.receiveBufferSize.toNat + 1) (profile : Profile) (size : UInt16) :
    cb.hdrWindowSize profile ≠ .ok size := by
  have scale := granted.scale
  have small := granted.size_lt
  unfold unread at excess
  intro computed
  obtain ⟨windowSize, subtracts, computed⟩ := bind_ok.mp computed
  have wraps : windowSize = 2 ^ 32 - 1 := by
    simp only [getReceiveWindowSize, SeqNumber.toU32_sub, excess, subU32] at subtracts
    rw [if_neg (by omega)] at subtracts
    split at subtracts
    · cases subtracts
    · have := Except.ok.inj subtracts
      omega
  have shifted : shrU32 profile windowSize cb.windowScale.toNat =
      .ok (windowSize >>> cb.windowScale.toNat) := by
    simp only [shrU32]
    rw [if_pos (by omega)]
  have large : 2 ^ 16 ≤ windowSize >>> cb.windowScale.toNat := by
    rw [Nat.shiftRight_eq_div_pow, Nat.le_div_iff_mul_le (Nat.two_pow_pos _)]
    calc 2 ^ 16 * 2 ^ cb.windowScale.toNat
        ≤ 2 ^ 16 * 2 ^ 14 := Nat.mul_le_mul_left _ (Nat.pow_le_pow_right (by decide) scale)
      _ ≤ windowSize := by rw [wraps]; decide
  simp only [shifted, bind, Except.bind, if_neg (Nat.not_lt.mpr large)] at computed
  cases computed

/-- Joined text fits the window, with its FIN: the FIN has been acknowledged. -/
theorem TidyStore.joined_fits (tidy : cb.TidyStore) (granted : cb.Granted) (settled : cb.Settled)
    (fits : text.bytes.length ≤ cb.window)
    (before : ∀ entry ∈ cb.outOfOrder, text.bytes.length ≤ first cb.receiver.receiveNext entry)
    (joins : cb.reception.Joins text front rest fin) {profile : Profile} {state : State}
    (reception : cb'.reception = cb.reception.joined text.bytes front rest fin)
    (taken : FinTaken profile state fin cb') :
    text.bytes.length + storedLength front + fin.toNat ≤ cb.window := by
  have reach := (tidy.joins settled fits before joins).1
  cases fin with
  | false => exact reach
  | true =>
    obtain ⟨-, field, computed⟩ := taken
    have size : cb'.receiveBufferSize = cb.receiveBufferSize :=
      congrArg Reception.receiveBufferSize reception
    have granted' : cb'.Granted := granted.of_eq size (congrArg Reception.windowScale reception)
    rw [Bool.toNat_true]
    by_contra beyond
    refine granted'.hdrWindowSize_past ?_ profile field computed
    have next : cb'.receiver.receiveNext = cb.receiver.receiveNext.advanced
        (text.bytes.length + storedLength front + 1) :=
      congrArg (fun after => after.receiver.receiveNext) reception
    have reader : cb'.receiver.readerNext = cb.receiver.readerNext :=
      congrArg (fun after => after.receiver.readerNext) reception
    obtain ⟨held, small⟩ := settled
    unfold window at reach beyond
    unfold unread at held reach beyond ⊢
    rw [next, reader, size, SeqNumber.ahead_to_advanced (by omega)]
    omega

/-- The window shrinks by what has been received. -/
theorem window_advanced {count : Nat} (settled : cb.Settled) (fits : count ≤ cb.window)
    (reader : cb'.receiver.readerNext = cb.receiver.readerNext)
    (next : cb'.receiver.receiveNext = cb.receiver.receiveNext.advanced count)
    (size : cb'.receiveBufferSize = cb.receiveBufferSize) : cb'.window = cb.window - count := by
  have total := (unread_advanced cb' count settled fits reader next size).1
  unfold window at fits ⊢
  rw [total, size]
  omega

/-- Moving on over numbers before every entry that stays keeps the store tidy. -/
theorem TidyStore.advance (tidy : cb.TidyStore) {count : Nat} (settled : cb.Settled)
    (fits : count ≤ cb.window) (reader : cb'.receiver.readerNext = cb.receiver.readerNext)
    (next : cb'.receiver.receiveNext = cb.receiver.receiveNext.advanced count)
    (size : cb'.receiveBufferSize = cb.receiveBufferSize)
    (fewer : cb'.outOfOrder.Sublist cb.outOfOrder)
    (short : ∀ entry ∈ cb'.outOfOrder, count < first cb.receiver.receiveNext entry) :
    cb'.TidyStore := by
  unfold TidyStore
  rw [window_advanced settled fits reader next size, next]
  exact (Tidy.sublist tidy fewer).advance short

/-- Only the reception matters. -/
theorem TidyStore.of_eq (tidy : cb.TidyStore) (same : cb'.reception = cb.reception) :
    cb'.TidyStore := by
  unfold TidyStore
  rw [receiver_eq same, window_eq same, outOfOrder_eq same]
  exact tidy

/-- Text that overlaps nothing keeps the store tidy. -/
theorem TidyStore.outcome (tidy : cb.TidyStore) (granted : cb.Granted) (settled : cb.Settled)
    (fits : text.bytes ≠ [] → text.offset + text.bytes.length ≤ cb.window)
    (finRoom : text.fin = true → text.offset + text.bytes.length < cb.window)
    (free : cb.OverlapFree text) (gap : cb.FinGap text) {profile : Profile} {state : State}
    (same : state.receivesData = cb.state.receivesData)
    (outcome : cb.TextOutcome profile text state cb') : cb'.TidyStore := by
  have small := settled.window_lt
  cases outcome with
  | ignored _ _ reception _ => exact tidy.of_eq reception
  | @stored store later _ receives inserts reception _ =>
    have receiver : cb'.receiver = cb.receiver := congrArg Reception.receiver reception
    have size : cb'.receiveBufferSize = cb.receiveBufferSize :=
      congrArg Reception.receiveBufferSize reception
    have window : cb'.window = cb.window := by
      unfold window unread
      rw [receiver, size]
    unfold TidyStore
    rw [receiver, window, show cb'.outOfOrder = store from congrArg Reception.outOfOrder reception]
    by_cases none : text.bytes = []
    · rw [Reception.storeText, if_pos none] at inserts
      cases inserts
      exact tidy
    · exact (storeText_clean profile cb.reception text tidy small later (fits none)
        (fun some entry member => (free (same ▸ receives) some entry member).1 later) inserts).1
  | @joined front rest fin inOrder some receives joins reception taken =>
    have receives : cb.state.receivesData = true := same ▸ receives
    have before (entry : SeqNumber × Buffer) (member : entry ∈ cb.outOfOrder) :=
      (free receives some entry member).2 inOrder
    have within : text.bytes.length ≤ cb.window := by
      have := fits some
      omega
    have room := tidy.joined_fits granted settled within before joins reception taken
    obtain ⟨-, further, -⟩ := tidy.joins settled within before joins
    have store : cb'.outOfOrder = rest := congrArg Reception.outOfOrder reception
    refine tidy.advance settled room (congrArg (fun after => after.receiver.readerNext) reception)
      (congrArg (fun after => after.receiver.receiveNext) reception)
      (congrArg Reception.receiveBufferSize reception) ?_ ?_
    · rw [store, show cb.outOfOrder = front ++ rest from joins.store]
      exact List.sublist_append_right ..
    · intro entry member
      rw [store] at member
      have beyond := further entry member
      cases fin with
      | false => exact beyond
      | true =>
        have apart := (gap inOrder).1 receives some front rest true joins rfl entry member
        rw [Bool.toNat_true]
        omega
  | finished inOrder none fin reception _ =>
    have room := finRoom fin
    have store : cb'.outOfOrder = cb.outOfOrder := congrArg Reception.outOfOrder reception
    refine tidy.advance settled (show 1 ≤ cb.window by omega)
      (congrArg (fun after => after.receiver.readerNext) reception)
      (congrArg (fun after => after.receiver.receiveNext) reception)
      (congrArg Reception.receiveBufferSize reception) (store ▸ .refl _) ?_
    intro entry member
    rw [store] at member
    have positive := tidy.ahead entry member
    have apart := (gap inOrder).2 (by rwa [same] at none) fin entry member
    omega

/-- Reading opens the window, so the store stays tidy. -/
theorem TidyStore.pollRecv (tidy : cb.TidyStore) {base : SeqNumber} {received popped : Nat}
    (accounted : Accounted base received popped cb) (waker : Waker) :
    (cb.pollRecv waker).1.TidyStore := by
  have edge := accounted.window_edge
  have edge' := (accounted.pollRecv waker).window_edge
  have fixed : (cb.pollRecv waker).1.receiveBufferSize = cb.receiveBufferSize ∧
      (cb.pollRecv waker).1.receiver.receiveNext = cb.receiver.receiveNext ∧
      (cb.pollRecv waker).1.outOfOrder = cb.outOfOrder := by
    unfold ControlBlock.pollRecv Receiver.pop
    cases cb.receiver.recvQueue <;> exact ⟨rfl, rfl, rfl⟩
  obtain ⟨size, next, store⟩ := fixed
  rw [size] at edge'
  unfold TidyStore
  rw [next, store]
  exact Tidy.widen tidy (by omega)

end ControlBlock

variable [CongestionControl κ] [RtoCalculator ρ]

/-- Arriving segments are shorter than half the sequence space, overlap no stored
entry partially, and no stored entry starts directly after a FIN that is taken. -/
def TidyArrival (c : Connection κ ρ) : Action → Prop
  | .receive _ header data => sequenceLength header data ≤ 2 ^ 31 ∧
    (c.cb.ReachesText header data → c.cb.OverlapFree (c.cb.textInWindow header data) ∧
      c.cb.FinGap (c.cb.textInWindow header data))
  | _ => True

/-- Every action keeps the account and the store tidy. -/
theorem Accounted.tidy_step {profile : Profile} {base : SeqNumber} {received popped : Nat}
    {source target : Connection κ ρ} {action : Action}
    (accounted : Accounted base received popped source.cb) (tidy : source.cb.TidyStore)
    (arrival : TidyArrival source action) (advanced : source.step profile action = .ok target) :
    Accounted base
      (received + source.cb.receiver.receiveNext.ahead target.cb.receiver.receiveNext)
      (popped + (Connection.popped ⟨source, action, target⟩).length) target.cb ∧
    target.cb.TidyStore := by
  have small := accounted.settled.window_lt
  by_cases receives : ∃ env header data, action = .receive env header data
  · obtain ⟨env, header, data, rfl⟩ := receives
    obtain ⟨short, free⟩ := arrival
    obtain ⟨cb, received', advanced⟩ := bind_ok.mp advanced
    cases advanced
    have outcome := (ControlBlock.receive_cases accounted.settled short received').text
    have same := source.cb.stateAfterAck_receivesData header
    have fits := source.cb.text_fits header data
    have finRoom := source.cb.text_fin_room header data
    simp only [Connection.popped, List.length_nil, Nat.add_zero]
    split at outcome
    · rename_i reaches
      obtain ⟨free, gap⟩ := free reaches
      obtain ⟨count, within, next, after⟩ := accounted.text fits finRoom
        (fun front rest taken inOrder some receives joins reception fin =>
          tidy.joined_fits accounted.granted accounted.settled
            (by have := fits some; omega)
            (fun entry member => (free (same ▸ receives) some entry member).2 inOrder)
            joins reception fin) outcome
      rw [next, SeqNumber.ahead_advanced_of_lt _ (by omega)]
      exact ⟨after, tidy.outcome accounted.granted accounted.settled fits finRoom free gap same outcome⟩
    · rw [ControlBlock.receiver_eq outcome.1, SeqNumber.ahead_self]
      exact ⟨accounted.of_eq outcome.1, tidy.of_eq outcome.1⟩
  · have counted : FinCounted source action ∧ EdgeCounted source action := by
      cases action <;> first | exact ⟨trivial, trivial⟩ | exact absurd ⟨_, _, _, rfl⟩ receives
    refine ⟨accounted.step counted.1 counted.2 advanced, ?_⟩
    cases action with
    | receive env header data => exact absurd ⟨_, _, _, rfl⟩ receives
    | pollRecv waker =>
      cases advanced
      exact tidy.pollRecv accounted waker
    | send | close | senderRound | retransmitterRound | acknowledgerRound =>
      exact tidy.of_eq (Connection.step_undisturbed rfl advanced).reception

/-- A connection made by a handshake starts with an empty store. -/
theorem ControlBlock.TidyStore.new (args : NewConnection) :
    (ControlBlock.new args : ControlBlock κ ρ).TidyStore := by
  refine ⟨?_, ?_, ?_, ?_⟩ <;> simp [ControlBlock.new]

/-- Out-of-order store invariant. Along every run of a connection made by a
handshake in which arriving text overlaps no stored entry partially and no stored
entry starts directly after a FIN that is taken, the store is sorted, holds no
byte twice, has no empty entry and lies after `receive_next`.

Proof: the invariant pairs `Accounted`, which relates the window to what has been
received, with `TidyStore`. A tidy arrival keeps both: the window places the text after
`receive_next`, and without a partial overlap the insertion leaves the entries apart and
in order. -/
theorem Connection.store_sound (profile : Profile) (args : NewConnection)
    (scale : args.receiverWindowScale.toNat ≤ 14)
    (size : ∃ window < 2 ^ 16,
      args.receiverWindowSize.toNat = window <<< args.receiverWindowScale.toNat)
    {past : List (Transition κ ρ)} {state : Connection κ ρ}
    (run : Run profile (Connection.new args) past state) (tidy : Runs.Meets TidyArrival past) :
    state.cb.StoreSound := by
  have kept : Accounted args.receiverSeqNo (received past) (allPopped past).length state.cb ∧
      state.cb.TidyStore := by
    refine Runs.run_invariant (fun past (state : Connection κ ρ) =>
      Accounted args.receiverSeqNo (received past) (allPopped past).length state.cb ∧
        state.cb.TidyStore) ?_ ?_ run tidy
    · exact ⟨.new args scale size, .new args⟩
    · rintro past source action target - arrival ⟨accounted, tidy⟩ advanced
      rw [allPopped, List.length_append]
      exact accounted.tidy_step tidy arrival advanced
  exact kept.2.sound kept.1.settled

/-- Two segments out of order, and a third that joins one of them. -/
theorem Connection.store_sound_reordered :
    ∃ past state, Run .dev (Connection.sample 1000 1000 536) past state ∧
      Runs.Meets TidyArrival past ∧ state.cb.outOfOrder = [(SeqNumber.ofU32 106, [7])] ∧
      state.cb.StoreSound := by
  have executed : ∃ past state, execute .dev (Connection.sample 1000 1000 536)
      [.segment 106 1000 [7] false, .segment 102 1000 [3, 4] false,
        .segment 100 1000 [1, 2] false] = .ok (past, state) ∧ Runs.Meets TidyArrival past ∧
        state.cb.outOfOrder = [(SeqNumber.ofU32 106, [7])] := by
    refine ⟨_, _, rfl, ?_, by decide⟩
    refine (Runs.meets_cons _ _ _).mpr ⟨?_, (Runs.meets_cons _ _ _).mpr ⟨?_,
      (Runs.meets_cons _ _ _).mpr ⟨?_, Runs.meets_nil _⟩⟩⟩
    all_goals
      refine ⟨by decide, fun _ => ⟨fun _ _ => ?_, .of_no_fin (by decide) (by decide)⟩⟩
      unfold Clean
      decide
  obtain ⟨past, state, executed, tidy, store⟩ := executed
  have run := run_of_execute executed
  exact ⟨past, state, run, tidy, store, store_sound .dev (NewConnection.sample 1000 1000 536)
    (by decide) ⟨1000, by decide, rfl⟩ run tidy⟩

/-- A segment that overlaps the end of a stored one is stored with a byte of it; a
segment that overlaps the front of a stored one is stored behind it; and in-order
text runs past a stored segment that stays. -/
theorem Connection.store_unsound_overlapping :
    (∃ past state, Run .dev (Connection.sample 1000 1000 536) past state ∧
      state.cb.outOfOrder = [(SeqNumber.ofU32 105, [6, 7, 8, 9, 10]),
        (SeqNumber.ofU32 109, [10, 11, 12, 13])] ∧ ¬ state.cb.StoreSound) ∧
    (∃ past state, Run .dev (Connection.sample 1000 1000 536) past state ∧
      state.cb.outOfOrder = [(SeqNumber.ofU32 105, [6, 7, 8, 9, 10]),
        (SeqNumber.ofU32 103, [4, 5])] ∧ ¬ state.cb.StoreSound) ∧
    (∃ past state, Run .dev (Connection.sample 1000 1000 536) past state ∧
      state.cb.receiver.receiveNext = SeqNumber.ofU32 107 ∧
      state.cb.outOfOrder = [(SeqNumber.ofU32 105, [6, 7, 8, 9, 10])] ∧
      ¬ state.cb.StoreSound) := by
  refine ⟨?_, ?_, ?_⟩
  · have executed : ∃ past state, execute .dev (Connection.sample 1000 1000 536)
        [.segment 105 1000 [6, 7, 8, 9, 10] false, .segment 108 1000 [9, 10, 11, 12, 13] false] =
          .ok (past, state) ∧ state.cb.outOfOrder = [(SeqNumber.ofU32 105, [6, 7, 8, 9, 10]),
            (SeqNumber.ofU32 109, [10, 11, 12, 13])] := ⟨_, _, rfl, by decide⟩
    obtain ⟨past, state, executed, store⟩ := executed
    refine ⟨past, state, run_of_execute executed, store, fun sound => ?_⟩
    have disjoint := sound.disjoint
    rw [store, List.pairwise_cons] at disjoint
    exact disjoint.1 _ (List.mem_singleton_self _) 4 (by decide) 0 (by decide) (by decide)
  · have executed : ∃ past state, execute .dev (Connection.sample 1000 1000 536)
        [.segment 105 1000 [6, 7, 8, 9, 10] false, .segment 103 1000 [4, 5, 6, 7, 8] false] =
          .ok (past, state) ∧ state.cb.outOfOrder = [(SeqNumber.ofU32 105, [6, 7, 8, 9, 10]),
            (SeqNumber.ofU32 103, [4, 5])] := ⟨_, _, rfl, by decide⟩
    obtain ⟨past, state, executed, store⟩ := executed
    refine ⟨past, state, run_of_execute executed, store, fun sound => ?_⟩
    have sorted := sound.sorted
    rw [store, List.pairwise_cons] at sorted
    exact absurd (sorted.1 _ (List.mem_singleton_self _)) (by decide)
  · have executed : ∃ past state, execute .dev (Connection.sample 1000 1000 536)
        [.segment 105 1000 [6, 7, 8, 9, 10] false, .segment 100 1000 [1, 2, 3, 4, 5, 6, 7] false] =
          .ok (past, state) ∧ state.cb.receiver.receiveNext = SeqNumber.ofU32 107 ∧
          state.cb.outOfOrder = [(SeqNumber.ofU32 105, [6, 7, 8, 9, 10])] :=
      ⟨_, _, rfl, by decide, by decide⟩
    obtain ⟨past, state, executed, next, store⟩ := executed
    refine ⟨past, state, run_of_execute executed, next, store, fun sound => ?_⟩
    have ahead := sound.ahead
    rw [store, next] at ahead
    exact absurd (ahead _ (List.mem_singleton_self _)) (by decide)

end Capybara
