import Capybara.Tcp.Established.Receive

/-!
# What the acceptability test lets through

The first half of `receive` compares a segment with the receive window in
wrapping arithmetic and trims it at both ends. Seen from `receive_next` a segment
has a signed position, and what should survive is plain: the bytes whose
positions lie in the window, and the FIN if its own position does.

`trimToWindow_cases` shows that the code computes exactly this, for every window
below half the sequence space. The only inputs on which the test itself fails
are segments that start at `receive_next` while the window is closed: a SYN, or,
with debug assertions, a segment that occupies no sequence number.
-/

namespace Capybara

namespace SeqNumber

/-- Signed position of a point as the `<` of sequence numbers places it. -/
def position (origin point : SeqNumber) : Int :=
  if point.lt origin then -(point.ahead origin : Int) else origin.ahead point

/-- Signed position of an old point, and of a recent one. -/
theorem position_old {origin point : SeqNumber} (old : point.lt origin = true) :
    origin.position point = -(point.ahead origin : Int) := by
  simp [position, old]

/-- A point that is not behind is as far away as steps lead to it. -/
theorem position_recent {origin point : SeqNumber} (recent : point.lt origin = false) :
    origin.position point = origin.ahead point := by
  simp [position, recent]

/-- Points counted from a common base, not half the sequence space apart. -/
theorem position_advanced (base : SeqNumber) {here there : Nat} (near : here ≤ there + 2 ^ 31)
    (near' : there < here + 2 ^ 31) :
    (base.advanced here).position (base.advanced there) = (there : Int) - here := by
  rcases Nat.lt_or_ge there here with behind | ahead
  · have back : (base.advanced there).ahead (base.advanced here) = here - there := by
      rw [show here = there + (here - there) by omega, ← advanced_advanced,
        ahead_advanced_of_lt _ (by omega)]
      omega
    rw [position_old ((lt_iff _ _).mpr (by omega)), back]
    omega
  · have forward : (base.advanced here).ahead (base.advanced there) = there - here := by
      rw [show there = here + (there - here) by omega, ← advanced_advanced,
        ahead_advanced_of_lt _ (by omega)]
      omega
    have turn := ahead_back (base.advanced here) (base.advanced there)
    have recent : (base.advanced there).lt (base.advanced here) = false := by
      rw [← Bool.not_eq_true, lt_iff]
      omega
    rw [position_recent recent, forward]
    omega

end SeqNumber

/-- The part of a segment that lies in the receive window: the distance of its
first byte from `receive_next`, its bytes, and whether its FIN lies there. -/
structure Text where
  offset : Nat
  bytes : Buffer
  fin : Bool
  deriving DecidableEq, Repr

/-- The sequence numbers a text occupies. -/
def Text.length (text : Text) : Nat := text.bytes.length + text.fin.toNat

/-- The sequence numbers a segment occupies. -/
def sequenceLength (header : TcpHeader) (data : Buffer) : Nat :=
  data.length + header.syn.toNat + header.fin.toNat

namespace ControlBlock

variable {κ ρ : Type}

/-- Sequence numbers received but not yet read, a consumed FIN included. -/
def unread (cb : ControlBlock κ ρ) : Nat := cb.receiver.readerNext.ahead cb.receiver.receiveNext

/-- The receive window: what the buffer still has room for. -/
def window (cb : ControlBlock κ ρ) : Nat := cb.receiveBufferSize.toNat - cb.unread

/-- The unread data fits in the buffer, and the buffer is small enough for
signed comparisons inside it to be exact. -/
structure Settled (cb : ControlBlock κ ρ) : Prop where
  fits : cb.unread ≤ cb.receiveBufferSize.toNat
  small : cb.receiveBufferSize.toNat < 2 ^ 31

/-- Position of the first byte of the text, after a SYN if there is one. -/
def textPosition (cb : ControlBlock κ ρ) (header : TcpHeader) : Int :=
  cb.receiver.receiveNext.position header.seqNum + header.syn.toNat

/-- The text of a segment that lies in the receive window. -/
def textInWindow (cb : ControlBlock κ ρ) (header : TcpHeader) (data : Buffer) : Text where
  offset := (cb.textPosition header).toNat
  bytes := (data.drop (-cb.textPosition header).toNat).take
    (cb.window - (cb.textPosition header).toNat)
  fin := header.fin && decide (0 ≤ cb.textPosition header + data.length) &&
    decide (cb.textPosition header + data.length < cb.window)

/-- Text in the window does not reach beyond it. -/
theorem text_fits (cb : ControlBlock κ ρ) (header : TcpHeader) (data : Buffer)
    (some : (cb.textInWindow header data).bytes ≠ []) :
    (cb.textInWindow header data).offset + (cb.textInWindow header data).bytes.length ≤ cb.window := by
  have occupied := List.length_pos_iff.mpr some
  simp only [textInWindow, List.length_take] at occupied ⊢
  omega

/-- The window of a settled connection is less than half a turn. -/
theorem Settled.window_lt {cb : ControlBlock κ ρ} (settled : cb.Settled) : cb.window < 2 ^ 31 := by
  have small := settled.small
  unfold window
  omega

/-- The window of a settled connection is computed without underflow. -/
theorem getReceiveWindowSize_settled (profile : Profile) {cb : ControlBlock κ ρ}
    (settled : cb.Settled) : cb.getReceiveWindowSize profile = .ok cb.window := by
  have fits : (cb.receiver.receiveNext - cb.receiver.readerNext).toU32 ≤
    cb.receiveBufferSize.toNat := settled.fits
  simp only [getReceiveWindowSize]
  rw [subU32_of_le profile fits]
  rfl

/-- How a segment stands once its front has been compared with the window: it
starts `offset` numbers into it, or exactly at a closed one. -/
structure Fronted (cb : ControlBlock κ ρ) (segment : Accepted) (offset : Nat) : Prop where
  start : segment.segStart = cb.receiver.receiveNext.advanced offset
  near : offset = 0 ∨ offset < cb.window
  length : segment.segLen = sequenceLength segment.header segment.data
  last : 0 < segment.segLen →
    segment.segEnd = cb.receiver.receiveNext.advanced (offset + segment.segLen - 1)
  empty : segment.segLen = 0 → segment.segEnd = segment.segStart
  bound : segment.segLen ≤ 2 ^ 31

/-- A segment trimmed to the window. -/
structure Inside (cb : ControlBlock κ ρ) (segment : Accepted) (offset : Nat) : Prop where
  start : segment.segStart = cb.receiver.receiveNext.advanced offset
  near : offset = 0 ∨ offset < cb.window
  length : segment.segLen = sequenceLength segment.header segment.data
  last : 0 < segment.segLen →
    segment.segEnd = cb.receiver.receiveNext.advanced (offset + segment.segLen - 1)
  inside : offset + segment.segLen ≤ cb.window

/-- The end of a fronted segment is past the window exactly when its last number
is. -/
theorem Fronted.past_window {cb : ControlBlock κ ρ} (settled : cb.Settled) {segment : Accepted}
    {offset : Nat} (fronted : cb.Fronted segment offset) (occupied : 0 < segment.segLen) :
    segment.segEnd.ge (cb.receiver.receiveNext.advanced cb.window) = true ↔
      cb.window < offset + segment.segLen := by
  have small := settled.window_lt
  have bound := fronted.bound
  have near := fronted.near
  have lastAhead : cb.receiver.receiveNext.ahead segment.segEnd = offset + segment.segLen - 1 := by
    rw [fronted.last occupied, SeqNumber.ahead_advanced_of_lt _ (by omega)]
  have afterAhead : cb.receiver.receiveNext.ahead (cb.receiver.receiveNext.advanced cb.window) =
      cb.window := SeqNumber.ahead_advanced_of_lt _ (by omega)
  have ordered := SeqNumber.lt_iff_of_near cb.receiver.receiveNext segment.segEnd
    (cb.receiver.receiveNext.advanced cb.window) (by omega) (by omega)
  rw [SeqNumber.ge_eq, Bool.not_eq_true', ← Bool.not_eq_true, ordered]
  omega

/-- Trimming the end of a fronted segment keeps what lies in the window. The one
exception is a SYN at a closed window, where more bytes are cut than the segment
carries. -/
theorem trimEnd_fronted (profile : Profile) {cb : ControlBlock κ ρ} (settled : cb.Settled)
    {segment : Accepted} {offset : Nat} (fronted : cb.Fronted segment offset)
    (room : segment.header.syn = true → offset < cb.window) :
    ∃ trimmed, trimEnd profile segment (cb.receiver.receiveNext.advanced cb.window) = .ok trimmed ∧
      cb.Inside trimmed offset ∧
      trimmed.header = { segment.header with
        fin := segment.header.fin && decide (offset + segment.segLen ≤ cb.window) } ∧
      trimmed.data = segment.data.take (cb.window - offset - segment.header.syn.toNat) ∧
      (segment.segLen = 0 → trimmed = segment) ∧
      (0 < segment.segLen →
        trimmed.segEnd.lt (cb.receiver.receiveNext.advanced cb.window) = true) := by
  have small := settled.window_lt
  have bound := fronted.bound
  have near := fronted.near
  have length := fronted.length
  by_cases past : 0 < segment.segLen ∧ cb.window < offset + segment.segLen
  · obtain ⟨occupied, beyond⟩ := past
    have reaches := (fronted.past_window settled occupied).mpr beyond
    have distance : (segment.segEnd - cb.receiver.receiveNext.advanced cb.window).toU32 =
        offset + segment.segLen - 1 - cb.window := by
      have afterAhead := SeqNumber.ahead_advanced_of_lt cb.receiver.receiveNext
        (show cb.window < 2 ^ 32 by omega)
      have lastAhead : cb.receiver.receiveNext.ahead segment.segEnd =
          offset + segment.segLen - 1 := by
        rw [fronted.last occupied, SeqNumber.ahead_advanced_of_lt _ (by omega)]
      rw [SeqNumber.toU32_sub, SeqNumber.ahead_between cb.receiver.receiveNext (by omega),
        lastAhead, afterAhead]
    have synRoom : offset + segment.header.syn.toNat ≤ cb.window := by
      cases syn : segment.header.syn with
      | false => simp only [Bool.toNat_false]; omega
      | true => have := room syn; simp only [Bool.toNat_true]; omega
    have parts : segment.segLen =
        segment.data.length + segment.header.syn.toNat + segment.header.fin.toNat := length
    have finBound := Bool.toNat_le segment.header.fin
    have cut : (if segment.header.fin then subU32 profile (offset + segment.segLen - cb.window) 1
        else .ok (offset + segment.segLen - cb.window)) =
        .ok (offset + segment.segLen - cb.window - segment.header.fin.toNat) := by
      cases fin : segment.header.fin with
      | false => simp
      | true => simp only [if_true, Bool.toNat_true]; exact subU32_of_le profile (by omega)
    have enough : offset + segment.segLen - cb.window - segment.header.fin.toNat ≤
        segment.data.length := by omega
    refine ⟨{ segment with
      segEnd := segment.segEnd - SeqNumber.ofU32 (offset + segment.segLen - cb.window)
      segLen := segment.segLen - (offset + segment.segLen - cb.window)
      header := { segment.header with fin := false }
      data := segment.data.take (segment.data.length -
        (offset + segment.segLen - cb.window - segment.header.fin.toNat)) }, ?_, ?_, ?_, ?_, ?_, ?_⟩
    · have excess : addU32 profile (offset + segment.segLen - 1 - cb.window) 1 =
          .ok (offset + segment.segLen - cb.window) := by
        rw [addU32_of_lt profile (by omega)]
        congr 1
        omega
      simp only [trimEnd, occupied, reaches, decide_true, Bool.and_self, if_true, distance, excess,
        bind, Except.bind, subU32_of_le profile (show offset + segment.segLen - cb.window ≤
          segment.segLen by omega), cut, Buffer.trim_of_le enough]
    · refine ⟨fronted.start, near, ?_, ?_, ?_⟩
      · simp only [sequenceLength, List.length_take, Bool.toNat_false]
        omega
      · intro kept
        change 0 < segment.segLen - (offset + segment.segLen - cb.window) at kept
        change segment.segEnd - SeqNumber.ofU32 (offset + segment.segLen - cb.window) =
          cb.receiver.receiveNext.advanced
            (offset + (segment.segLen - (offset + segment.segLen - cb.window)) - 1)
        rw [fronted.last occupied, SeqNumber.sub_ofU32 _ _ _ (by omega)]
        congr 1
        omega
      · change offset + (segment.segLen - (offset + segment.segLen - cb.window)) ≤ cb.window
        omega
    · simp only [Nat.not_le.mpr beyond, decide_false, Bool.and_false]
    · have kept : segment.data.length -
          (offset + segment.segLen - cb.window - segment.header.fin.toNat) =
            cb.window - offset - segment.header.syn.toNat := by omega
      change segment.data.take _ = segment.data.take _
      rw [kept]
    · intro none
      omega
    · intro _
      -- One step after the new end is the end of the window, also when that is closed.
      have next : (segment.segEnd - SeqNumber.ofU32 (offset + segment.segLen - cb.window)).advanced 1 =
          cb.receiver.receiveNext.advanced cb.window := by
        apply SeqNumber.advanced_injective (offset + segment.segLen - cb.window - 1)
        rw [SeqNumber.advanced_advanced, SeqNumber.advanced_advanced,
          show 1 + (offset + segment.segLen - cb.window - 1) =
            offset + segment.segLen - cb.window by omega,
          SeqNumber.advanced_sub_ofU32, fronted.last occupied]
        congr 1
        omega
      rw [SeqNumber.lt_iff, ← next, SeqNumber.ahead_advanced_of_lt _ (by omega)]
      omega
  · have kept : trimEnd profile segment (cb.receiver.receiveNext.advanced cb.window) =
        .ok segment := by
      by_cases occupied : 0 < segment.segLen
      · have short : ¬ cb.window < offset + segment.segLen := fun beyond => past ⟨occupied, beyond⟩
        have within := mt (fronted.past_window settled occupied).mp short
        simp [trimEnd, within]
      · simp [trimEnd, Nat.eq_zero_of_not_pos occupied]
    have fits : offset + segment.segLen ≤ cb.window := by omega
    refine ⟨segment, kept, ⟨fronted.start, near, length, fronted.last, fits⟩, ?_, ?_,
      fun _ => rfl, ?_⟩
    · simp only [fits, decide_true, Bool.and_true]
    · have parts : segment.segLen =
          segment.data.length + segment.header.syn.toNat + segment.header.fin.toNat := length
      rw [List.take_of_length_le (by omega)]
    · intro occupied
      have within := mt (fronted.past_window settled occupied).mp (by omega)
      simpa [SeqNumber.ge_eq] using within

/-- The segment as the acceptability test first sees it. -/
def arrival (header : TcpHeader) (data : Buffer) : Accepted where
  segStart := header.seqNum
  segEnd := if sequenceLength header data > 0 then
    header.seqNum + SeqNumber.ofU32 (sequenceLength header data - 1) else header.seqNum
  segLen := sequenceLength header data
  header := header
  data := data

/-- The arrived segment without its first `back` numbers, the SYN among them. -/
def withoutOld (header : TcpHeader) (data : Buffer) (back : Nat) : Accepted where
  segStart := header.seqNum + SeqNumber.ofU32 back
  segEnd := (arrival header data).segEnd
  segLen := sequenceLength header data - back
  header := { header with syn := false }
  data := data.drop (back - header.syn.toNat)

/-- A segment that starts before `receive_next` is refused when it is entirely
old; otherwise exactly the old numbers are cut off its front. -/
theorem trimFront_old (profile : Profile) {cb : ControlBlock κ ρ} {header : TcpHeader}
    {data : Buffer} (short : sequenceLength header data ≤ 2 ^ 31)
    (old : header.seqNum.lt cb.receiver.receiveNext = true) :
    let back := header.seqNum.ahead cb.receiver.receiveNext
    let front := trimFront profile (arrival header data) cb.receiver.receiveNext
      (cb.receiver.receiveNext.advanced cb.window)
    (sequenceLength header data ≤ back ∧ front = .ok none) ∨
    (back < sequenceLength header data ∧ front = .ok (some (withoutOld header data back)) ∧
      cb.Fronted (withoutOld header data back) 0) := by
  intro back front
  obtain ⟨positive, half⟩ := (SeqNumber.lt_iff _ _).mp old
  have apart : header.seqNum ≠ cb.receiver.receiveNext := by
    intro same
    rw [same, SeqNumber.ahead_self] at positive
    omega
  by_cases occupied : 0 < sequenceLength header data
  · have endAt : (arrival header data).segEnd =
        header.seqNum.advanced (sequenceLength header data - 1) := by
      simp only [arrival, gt_iff_lt, occupied, if_true]
      rfl
    have endAhead : header.seqNum.ahead (arrival header data).segEnd =
        sequenceLength header data - 1 := by
      rw [endAt, SeqNumber.ahead_advanced_of_lt _ (by omega)]
    have ended := SeqNumber.lt_iff_of_near header.seqNum (arrival header data).segEnd
      cb.receiver.receiveNext (by omega) (by omega)
    rw [endAhead] at ended
    by_cases entirely : sequenceLength header data ≤ back
    · left
      have entire := ended.mpr (by omega)
      refine ⟨entirely, ?_⟩
      simp only [front, trimFront, arrival] at entire ⊢
      simp [apart, old, entire]
    · right
      have partly := mt ended.mp (by omega)
      have finBound := Bool.toNat_le header.fin
      have synBound := Bool.toNat_le header.syn
      have parts : sequenceLength header data =
        data.length + header.syn.toNat + header.fin.toNat := rfl
      have cut : (if header.syn then subU32 profile back 1 else .ok back) =
          .ok (back - header.syn.toNat) := by
        cases header.syn with
        | false => simp
        | true => simp only [if_true, Bool.toNat_true]; exact subU32_of_le profile positive
      have enough : back - header.syn.toNat ≤ data.length := by omega
      have met : header.seqNum + SeqNumber.ofU32 back = cb.receiver.receiveNext :=
        SeqNumber.advanced_ahead _ _
      refine ⟨by omega, ?_, ⟨?_, .inl rfl, ?_, ?_, ?_, ?_⟩⟩
      · have shorter := subU32_of_le profile (show back ≤ sequenceLength header data by omega)
        have startApart : (arrival header data).segStart ≠ cb.receiver.receiveNext := apart
        have startOld : (arrival header data).segStart.lt cb.receiver.receiveNext = true := old
        simp only [front]
        rw [trimFront, if_neg startApart, if_pos startOld, if_neg partly]
        change (subU32 profile (sequenceLength header data) back >>= _) = _
        rw [shorter]
        change ((if header.syn then subU32 profile back 1 else .ok back) >>= _) = _
        rw [cut]
        change (data.adjust (back - header.syn.toNat) >>= _) = _
        rw [Buffer.adjust_of_le enough]
        rfl
      · change header.seqNum + SeqNumber.ofU32 back = _
        rw [met, SeqNumber.advanced_zero]
      · simp only [withoutOld, sequenceLength, List.length_drop, Bool.toNat_false] at parts ⊢
        omega
      · intro _
        change (arrival header data).segEnd =
          cb.receiver.receiveNext.advanced (0 + (sequenceLength header data - back) - 1)
        rw [endAt, ← met, SeqNumber.add_ofU32, SeqNumber.advanced_advanced]
        congr 1
        omega
      · intro none
        change sequenceLength header data - back = 0 at none
        omega
      · change sequenceLength header data - back ≤ 2 ^ 31
        omega
  · left
    have none : sequenceLength header data = 0 := by omega
    refine ⟨by omega, ?_⟩
    simp only [front, trimFront, arrival, none]
    simp [apart, old]

/-- A segment that does not start before `receive_next` keeps its front; it is
refused when it starts past the window. -/
theorem trimFront_new (profile : Profile) {cb : ControlBlock κ ρ} (settled : cb.Settled)
    {header : TcpHeader} {data : Buffer} (short : sequenceLength header data ≤ 2 ^ 31)
    (recent : header.seqNum.lt cb.receiver.receiveNext = false) :
    let offset := cb.receiver.receiveNext.ahead header.seqNum
    let front := trimFront profile (arrival header data) cb.receiver.receiveNext
      (cb.receiver.receiveNext.advanced cb.window)
    offset < 2 ^ 31 ∧
    ((0 < offset ∧ cb.window ≤ offset ∧ front = .ok none) ∨
    ((offset = 0 ∨ offset < cb.window) ∧ front = .ok (some (arrival header data)) ∧
      cb.Fronted (arrival header data) offset)) := by
  intro offset front
  have window := settled.window_lt
  have turn := SeqNumber.ahead_back header.seqNum cb.receiver.receiveNext
  have notOld : ¬ (1 ≤ header.seqNum.ahead cb.receiver.receiveNext ∧
      header.seqNum.ahead cb.receiver.receiveNext ≤ 2 ^ 31) := by
    rw [← SeqNumber.lt_iff, recent]
    simp
  have lap := SeqNumber.ahead_lt cb.receiver.receiveNext header.seqNum
  have half : offset < 2 ^ 31 := by
    simp only [offset]
    omega
  have begins : header.seqNum = cb.receiver.receiveNext.advanced offset :=
    (SeqNumber.advanced_ahead _ _).symm
  have fronted (near : offset = 0 ∨ offset < cb.window) : cb.Fronted (arrival header data) offset := by
    refine ⟨begins, near, rfl, ?_, ?_, short⟩
    · intro occupied
      change 0 < sequenceLength header data at occupied
      simp only [arrival, gt_iff_lt, occupied, if_true]
      rw [SeqNumber.add_ofU32, begins, SeqNumber.advanced_advanced]
      congr 1
      omega
    · intro none
      change sequenceLength header data = 0 at none
      simp [arrival, none]
  refine ⟨half, ?_⟩
  by_cases same : header.seqNum = cb.receiver.receiveNext
  · right
    have none : offset = 0 := SeqNumber.ahead_eq_zero.mpr same
    refine ⟨.inl none, ?_, fronted (.inl none)⟩
    have startSame : (arrival header data).segStart = cb.receiver.receiveNext := same
    simp only [front]
    rw [trimFront, if_pos startSame]
  · have positive : 0 < offset := by
      have apart : offset ≠ 0 := fun none => same (SeqNumber.ahead_eq_zero.mp none)
      omega
    have startApart : (arrival header data).segStart ≠ cb.receiver.receiveNext := same
    have startRecent : ¬ (arrival header data).segStart.lt cb.receiver.receiveNext = true := by
      change ¬ header.seqNum.lt cb.receiver.receiveNext = true
      simp [recent]
    have afterAhead := SeqNumber.ahead_advanced_of_lt cb.receiver.receiveNext
      (show cb.window < 2 ^ 32 by omega)
    have ordered := SeqNumber.lt_iff_of_near cb.receiver.receiveNext header.seqNum
      (cb.receiver.receiveNext.advanced cb.window) (by omega) (by omega)
    rw [afterAhead] at ordered
    by_cases inside : offset < cb.window
    · right
      have kept : ¬ (arrival header data).segStart.ge
          (cb.receiver.receiveNext.advanced cb.window) = true := by
        change ¬ header.seqNum.ge _ = true
        rw [SeqNumber.ge_eq, ordered.mpr inside]
        simp
      refine ⟨.inr inside, ?_, fronted (.inr inside)⟩
      simp only [front]
      rw [trimFront, if_neg startApart, if_neg startRecent, if_neg kept]
    · left
      have refused : (arrival header data).segStart.ge
          (cb.receiver.receiveNext.advanced cb.window) = true := by
        change header.seqNum.ge _ = true
        rw [SeqNumber.ge_eq, Bool.not_eq_true', ← Bool.not_eq_true, ordered]
        exact inside
      refine ⟨positive, by omega, ?_⟩
      simp only [front]
      rw [trimFront, if_neg startApart, if_neg startRecent, if_pos refused]

/-- The acceptability test runs on the arrived segment and the window. -/
theorem trimToWindow_eq (profile : Profile) {cb : ControlBlock κ ρ} (settled : cb.Settled)
    {header : TcpHeader} {data : Buffer} (short : sequenceLength header data ≤ 2 ^ 31) :
    cb.trimToWindow profile header data = (do
      match ← trimFront profile (arrival header data) cb.receiver.receiveNext
          (cb.receiver.receiveNext.advanced cb.window) with
      | none => .ok none
      | some segment => do
        let segment ← trimEnd profile segment (cb.receiver.receiveNext.advanced cb.window)
        debugAssert profile (cb.receiver.receiveNext.le segment.segStart &&
          segment.segEnd.lt (cb.receiver.receiveNext.advanced cb.window)) .segmentOutsideWindow
        .ok (some segment)) := by
  have parts : sequenceLength header data =
    data.length + header.syn.toNat + header.fin.toNat := rfl
  have withSyn : (if header.syn then addU32 profile (asU32 data.length) 1
      else .ok (asU32 data.length)) = .ok (data.length + header.syn.toNat) := by
    rw [asU32_of_lt (by omega)]
    cases syn : header.syn with
    | false => simp
    | true =>
      simp only [if_true, Bool.toNat_true]
      rw [syn, Bool.toNat_true] at parts
      exact addU32_of_lt profile (by omega)
  have withFin : (if header.fin then addU32 profile (data.length + header.syn.toNat) 1
      else .ok (data.length + header.syn.toNat)) = .ok (sequenceLength header data) := by
    rw [parts]
    cases fin : header.fin with
    | false => simp
    | true =>
      simp only [if_true, Bool.toNat_true]
      rw [fin, Bool.toNat_true] at parts
      exact addU32_of_lt profile (by omega)
  rw [trimToWindow, withSyn]
  change ((if header.fin then addU32 profile (data.length + header.syn.toNat) 1
    else .ok (data.length + header.syn.toNat)) >>= _) = _
  rw [withFin]
  change (cb.getReceiveWindowSize profile >>= _) = _
  rw [getReceiveWindowSize_settled profile settled]
  rfl

/-- "If a segment is acceptable": it starts at `receive_next`, or starts before
it and reaches it, or starts further on in the window. -/
def Acceptable (cb : ControlBlock κ ρ) (header : TcpHeader) (data : Buffer) : Prop :=
  let position := cb.receiver.receiveNext.position header.seqNum
  position = 0 ∨ (position < 0 ∧ -position < sequenceLength header data) ∨
    (0 < position ∧ position < cb.window)

instance (cb : ControlBlock κ ρ) (header : TcpHeader) (data : Buffer) :
    Decidable (cb.Acceptable header data) := by
  unfold Acceptable
  infer_instance

/-- The segments on which the acceptability test itself fails: with the window
closed, a SYN at `receive_next`, or an empty segment there when assertions are on. -/
def ClosedWindowFault (profile : Profile) (cb : ControlBlock κ ρ) (header : TcpHeader)
    (data : Buffer) : Prop :=
  cb.window = 0 ∧ header.seqNum = cb.receiver.receiveNext ∧
    (header.syn = true ∨ profile.checks = true ∧ sequenceLength header data = 0)

instance (profile : Profile) (cb : ControlBlock κ ρ) (header : TcpHeader) (data : Buffer) :
    Decidable (cb.ClosedWindowFault profile header data) := by
  unfold ClosedWindowFault
  infer_instance

/-- A segment trimmed to the window, related to the segment that arrived. -/
structure Passed (cb : ControlBlock κ ρ) (header : TcpHeader) (data : Buffer)
    (segment : Accepted) : Prop where
  flags : segment.header = { header with syn := segment.header.syn, fin := segment.header.fin }
  syn : segment.header.syn = (header.syn && !header.seqNum.lt cb.receiver.receiveNext)
  inside : segment.header.syn = false → cb.Inside segment (cb.textInWindow header data).offset
  bytes : segment.header.syn = false → segment.data = (cb.textInWindow header data).bytes
  fin : segment.header.syn = false → segment.header.fin = (cb.textInWindow header data).fin

/-- The rest of the acceptability test once the front of a segment is settled. -/
theorem trimEnd_checked (profile : Profile) {cb : ControlBlock κ ρ} (settled : cb.Settled)
    {segment : Accepted} {offset : Nat} (fronted : cb.Fronted segment offset)
    (room : segment.header.syn = true → offset < cb.window)
    (occupied : profile.checks = true → segment.segLen = 0 → offset < cb.window) :
    ∃ trimmed,
      (do
        let segment ← trimEnd profile segment (cb.receiver.receiveNext.advanced cb.window)
        debugAssert profile (cb.receiver.receiveNext.le segment.segStart &&
          segment.segEnd.lt (cb.receiver.receiveNext.advanced cb.window)) .segmentOutsideWindow
        .ok (some segment)) = Except.ok (some trimmed) ∧
      cb.Inside trimmed offset ∧
      trimmed.header = { segment.header with
        fin := segment.header.fin && decide (offset + segment.segLen ≤ cb.window) } ∧
      trimmed.data = segment.data.take (cb.window - offset - segment.header.syn.toNat) := by
  have small := settled.window_lt
  have near := fronted.near
  obtain ⟨trimmed, trims, inside, header, bytes, emptyKept, ends⟩ :=
    trimEnd_fronted profile settled fronted room
  refine ⟨trimmed, ?_, inside, header, bytes⟩
  have offsetAhead := SeqNumber.ahead_advanced_of_lt cb.receiver.receiveNext
    (show offset < 2 ^ 32 by omega)
  have starts : cb.receiver.receiveNext.le trimmed.segStart = true := by
    rw [SeqNumber.le_iff, inside.start, offsetAhead]
    omega
  have asserted : debugAssert profile (cb.receiver.receiveNext.le trimmed.segStart &&
      trimmed.segEnd.lt (cb.receiver.receiveNext.advanced cb.window)) .segmentOutsideWindow =
        .ok () := by
    rw [starts, Bool.true_and]
    by_cases counted : 0 < segment.segLen
    · rw [ends counted, debugAssert_true]
    · have none : segment.segLen = 0 := by omega
      cases checked : profile.checks with
      | false => simp [debugAssert, checked]
      | true =>
        have within := occupied checked none
        have afterAhead := SeqNumber.ahead_advanced_of_lt cb.receiver.receiveNext
          (show cb.window < 2 ^ 32 by omega)
        have before : trimmed.segEnd.lt (cb.receiver.receiveNext.advanced cb.window) = true := by
          rw [emptyKept none, fronted.empty none, fronted.start,
            SeqNumber.lt_iff_of_near cb.receiver.receiveNext _ _ (by omega) (by omega)]
          omega
        rw [before, debugAssert_true]
  rw [trims]
  change (debugAssert _ _ _ >>= _) = _
  rw [asserted]
  rfl

/-- At a closed window, trimming a SYN asks for one byte more than the segment
carries. -/
theorem trimEnd_syn_closed (profile : Profile) {cb : ControlBlock κ ρ} (settled : cb.Settled)
    {segment : Accepted} (fronted : cb.Fronted segment 0) (closed : cb.window = 0)
    (syn : segment.header.syn = true) :
    trimEnd profile segment (cb.receiver.receiveNext.advanced cb.window) =
      .error .trimPastBeginning := by
  have bound := fronted.bound
  have parts : segment.segLen =
      segment.data.length + segment.header.syn.toNat + segment.header.fin.toNat := fronted.length
  rw [syn, Bool.toNat_true] at parts
  have occupied : 0 < segment.segLen := by omega
  have reaches := (fronted.past_window settled occupied).mpr (by omega)
  have distance : (segment.segEnd - cb.receiver.receiveNext.advanced cb.window).toU32 =
      segment.segLen - 1 := by
    rw [SeqNumber.toU32_sub, closed, SeqNumber.advanced_zero, fronted.last occupied,
      SeqNumber.ahead_advanced_of_lt _ (by omega), Nat.zero_add]
  have excess : addU32 profile (segment.segLen - 1) 1 = .ok segment.segLen := by
    rw [addU32_of_lt profile (by omega), Nat.sub_add_cancel occupied]
  have cut : (if segment.header.fin then subU32 profile segment.segLen 1
      else .ok segment.segLen) = .ok (segment.data.length + 1) := by
    cases fin : segment.header.fin with
    | false => simp [parts, fin]
    | true =>
      simp only [if_true]
      rw [subU32_of_le profile occupied, parts, fin, Bool.toNat_true, Nat.add_sub_cancel]
  have fails : segment.data.trim (segment.data.length + 1) = .error .trimPastBeginning := by
    simp [Buffer.trim]
  simp only [trimEnd, occupied, reaches, decide_true, Bool.and_self, if_true, distance, excess,
    bind, Except.bind, subU32_of_le profile (Nat.le_refl segment.segLen), cut, fails]

/-- The acceptability test fails on the segments named by `ClosedWindowFault`. -/
theorem trimToWindow_fault (profile : Profile) {cb : ControlBlock κ ρ} (settled : cb.Settled)
    {header : TcpHeader} {data : Buffer} (short : sequenceLength header data ≤ 2 ^ 31)
    (failing : cb.ClosedWindowFault profile header data) :
    ∃ fault, (fault = .trimPastBeginning ∨ fault = .segmentOutsideWindow) ∧
      cb.trimToWindow profile header data = .error fault := by
  obtain ⟨closed, same, kind⟩ := failing
  have recent : header.seqNum.lt cb.receiver.receiveNext = false := by
    rw [← Bool.not_eq_true, SeqNumber.lt_iff, same, SeqNumber.ahead_self]
    omega
  have none : cb.receiver.receiveNext.ahead header.seqNum = 0 := SeqNumber.ahead_eq_zero.mpr same
  rw [trimToWindow_eq profile settled short]
  obtain ⟨-, refused | ⟨-, front, fronted⟩⟩ := trimFront_new profile settled short recent
  · omega
  rw [none] at fronted
  rw [front]
  by_cases syn : header.syn = true
  · refine ⟨.trimPastBeginning, .inl rfl, ?_⟩
    change (trimEnd profile (arrival header data) _ >>= _) = _
    rw [trimEnd_syn_closed profile settled fronted closed syn]
    rfl
  · obtain ⟨checked, empty⟩ := kind.resolve_left syn
    refine ⟨.segmentOutsideWindow, .inr rfl, ?_⟩
    have kept : trimEnd profile (arrival header data)
        (cb.receiver.receiveNext.advanced cb.window) = .ok (arrival header data) := by
      have zero : (arrival header data).segLen = 0 := empty
      simp [trimEnd, zero]
    have ended : (arrival header data).segEnd.lt (cb.receiver.receiveNext.advanced cb.window) =
        false := by
      rw [fronted.empty empty, fronted.start, closed, ← Bool.not_eq_true, SeqNumber.lt_iff,
        SeqNumber.ahead_self]
      omega
    change (trimEnd profile (arrival header data) _ >>= _) = _
    rw [kept]
    change (debugAssert _ _ _ >>= _) = _
    rw [ended, Bool.and_false, debugAssert, checked]
    rfl

/-- What is left of a partly old segment is its text in the window. -/
theorem withoutOld_passed {cb : ControlBlock κ ρ} {header : TcpHeader} {data : Buffer}
    {trimmed : Accepted} (old : header.seqNum.lt cb.receiver.receiveNext = true)
    (partly : header.seqNum.ahead cb.receiver.receiveNext < sequenceLength header data)
    (inside : cb.Inside trimmed 0)
    (kept : trimmed.header = { header with
      syn := false
      fin := header.fin && decide (sequenceLength header data -
        header.seqNum.ahead cb.receiver.receiveNext ≤ cb.window) })
    (bytes : trimmed.data = (data.drop (header.seqNum.ahead cb.receiver.receiveNext -
      header.syn.toNat)).take cb.window) :
    cb.Passed header data trimmed := by
  obtain ⟨positive, half⟩ := (SeqNumber.lt_iff _ _).mp old
  have synBound := Bool.toNat_le header.syn
  have parts : sequenceLength header data =
    data.length + header.syn.toNat + header.fin.toNat := rfl
  have position : cb.textPosition header =
      -(header.seqNum.ahead cb.receiver.receiveNext : Int) + header.syn.toNat := by
    rw [textPosition, SeqNumber.position_old old]
  have front : (cb.textPosition header).toNat = 0 := by omega
  have cut : (-cb.textPosition header).toNat =
      header.seqNum.ahead cb.receiver.receiveNext - header.syn.toNat := by omega
  refine ⟨by rw [kept], by rw [kept, old]; simp, fun _ => ?_, fun _ => ?_, fun _ => ?_⟩
  · change cb.Inside trimmed (cb.textPosition header).toNat
    rw [front]
    exact inside
  · simp only [textInWindow]
    rw [bytes, front, cut, Nat.sub_zero]
  · simp only [textInWindow]
    rw [kept]
    cases fin : header.fin with
    | false => simp
    | true =>
      rw [fin, Bool.toNat_true] at parts
      simp only [Bool.true_and]
      rw [← Bool.decide_and, decide_eq_decide]
      omega

/-- A recent segment that does not start with a SYN keeps its text in the
window. -/
theorem arrival_passed {cb : ControlBlock κ ρ} {header : TcpHeader} {data : Buffer}
    {trimmed : Accepted} (recent : header.seqNum.lt cb.receiver.receiveNext = false)
    (inside : cb.Inside trimmed (cb.receiver.receiveNext.ahead header.seqNum))
    (kept : trimmed.header = { header with
      fin := header.fin && decide (cb.receiver.receiveNext.ahead header.seqNum +
        sequenceLength header data ≤ cb.window) })
    (bytes : trimmed.data = data.take (cb.window -
      cb.receiver.receiveNext.ahead header.seqNum - header.syn.toNat)) :
    cb.Passed header data trimmed := by
  have parts : sequenceLength header data =
    data.length + header.syn.toNat + header.fin.toNat := rfl
  have synKept : trimmed.header.syn = header.syn := by rw [kept]
  refine ⟨by rw [kept], by rw [synKept, recent]; simp, fun plain => ?_, fun plain => ?_,
    fun plain => ?_⟩
  all_goals
    rw [synKept] at plain
    have position : cb.textPosition header = cb.receiver.receiveNext.ahead header.seqNum := by
      rw [textPosition, SeqNumber.position_recent recent, plain]
      rfl
    simp only [textInWindow, position, Int.toNat_natCast]
  · exact inside
  · rw [bytes, plain, Bool.toNat_false, Nat.sub_zero,
      show (-(cb.receiver.receiveNext.ahead header.seqNum : Int)).toNat = 0 by omega, List.drop_zero]
  · rw [kept]
    cases fin : header.fin with
    | false => simp
    | true =>
      rw [plain, fin, Bool.toNat_false, Bool.toNat_true] at parts
      simp only [Bool.true_and]
      rw [← Bool.decide_and, decide_eq_decide]
      omega

/-- The acceptability test refuses the segments that are not acceptable, and
passes on exactly the text that lies in the window. -/
theorem trimToWindow_cases (profile : Profile) {cb : ControlBlock κ ρ} (settled : cb.Settled)
    {header : TcpHeader} {data : Buffer} (short : sequenceLength header data ≤ 2 ^ 31)
    (sound : ¬ cb.ClosedWindowFault profile header data) :
    (¬ cb.Acceptable header data ∧ cb.trimToWindow profile header data = .ok none) ∨
    (cb.Acceptable header data ∧ ∃ segment,
      cb.trimToWindow profile header data = .ok (some segment) ∧ cb.Passed header data segment) := by
  have small := settled.window_lt
  rw [trimToWindow_eq profile settled short]
  cases old : header.seqNum.lt cb.receiver.receiveNext with
  | true =>
    obtain ⟨positive, half⟩ := (SeqNumber.lt_iff _ _).mp old
    have position := SeqNumber.position_old old
    obtain ⟨entirely, front⟩ | ⟨partly, front, fronted⟩ := trimFront_old profile short old
    · left
      rw [front]
      refine ⟨?_, rfl⟩
      simp only [Acceptable, position]
      omega
    · right
      rw [front]
      refine ⟨by simp only [Acceptable, position]; omega, ?_⟩
      obtain ⟨trimmed, passes, inside, kept, bytes⟩ := trimEnd_checked profile settled fronted
        (by intro syn; cases syn)
        (by intro _ none; change sequenceLength header data - _ = 0 at none; omega)
      simp only [withoutOld, Nat.zero_add, Nat.sub_zero, Bool.toNat_false] at kept bytes
      exact ⟨trimmed, passes, withoutOld_passed old partly inside kept bytes⟩
  | false =>
    have position := SeqNumber.position_recent old
    obtain ⟨half, ⟨positive, beyond, front⟩ | ⟨near, front, fronted⟩⟩ :=
      trimFront_new profile settled short old
    · left
      rw [front]
      refine ⟨?_, rfl⟩
      simp only [Acceptable, position]
      omega
    · right
      rw [front]
      refine ⟨by simp only [Acceptable, position]; omega, ?_⟩
      -- A closed window is reached only by a segment that starts exactly there.
      have open_of (kind : header.syn = true ∨
          profile.checks = true ∧ sequenceLength header data = 0) :
          cb.receiver.receiveNext.ahead header.seqNum < cb.window := by
        have : ¬ (cb.window = 0 ∧ cb.receiver.receiveNext.ahead header.seqNum = 0) :=
          fun ⟨closed, same⟩ => sound ⟨closed, SeqNumber.ahead_eq_zero.mp same, kind⟩
        omega
      obtain ⟨trimmed, passes, inside, kept, bytes⟩ := trimEnd_checked profile settled fronted
        (fun syn => open_of (.inl syn)) (fun checked none => open_of (.inr ⟨checked, none⟩))
      exact ⟨trimmed, passes, arrival_passed old inside kept bytes⟩

end ControlBlock

end Capybara
