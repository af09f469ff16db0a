import Capybara.Lib.Runs
import Capybara.Switch.Egress
import Mathlib.Algebra.BigOperators.Group.Finset.Basic

/-!
# The load snapshot of the switch

A tick ends an interval of counting and begins a round, in which each server port gets one
copy of the signal packet while the requests of the next interval are counted. Each bank is
cleared by the copies of the round that reads it, the sum of a bank when the bank is taken
into use again, and the minimum at the tick.

From the record of a run the requests of the present interval and of the one before the
last tick are computed. The registers are shown to hold their numbers, so that every copy
of a round carries the numbers of the interval that the tick has ended.
-/

namespace Capybara

open Registers Runs

/-! ## Packets and the record of a run -/

/-- What a packet is to the egress. -/
inductive EgressRole where
  | tick
  | copy (serverPort : BitVec 16)
  | request (dstPort : BitVec 16)
  | other
  deriving DecidableEq, Repr

/-- The role of a packet. -/
def EgressPacket.role (packet : EgressPacket) : EgressRole :=
  if packet.egressPort = PIPE_0_RECIRC then .tick
  else match packet.hdr.rpsSignal with
  | some _ => .copy packet.egressRid
  | none =>
    match packet.counted with
    | some dstPort => .request dstPort
    | none => .other

namespace EgressRegisters

/-- One packet; it always gets through the block. -/
def step (registers : EgressRegisters) (packet : EgressPacket) : Except Empty EgressRegisters :=
  .ok (registers.apply packet).registers

/-- A packet that has gone through the egress. -/
abbrev Transition := Runs.Transition EgressRegisters EgressPacket

/-- The registers reached from `start`, with the packets that have gone through. -/
abbrev Run (start : EgressRegisters) : List Transition → EgressRegisters → Prop :=
  Runs.Run step start

/-- The server port and the numbers that a copy has left with. -/
def carried (transition : Transition) : Option (BitVec 16 × RpsSignal) :=
  match transition.action.role with
  | .copy _ =>
    let hdr := (transition.source.apply transition.action).hdr
    hdr.rpsSignal.map fun signal => (hdr.udpDstPort, signal)
  | _ => none

/-- The ports of all requests. -/
def requests : List Transition → List (BitVec 16)
  | [] => []
  | transition :: past =>
    match transition.action.role with
    | .request dstPort => dstPort :: requests past
    | _ => requests past

/-- The copies of all rounds. -/
def reports : List Transition → List (BitVec 16 × RpsSignal)
  | [] => []
  | transition :: past => (carried transition).toList ++ reports past

/-- What is to be known of the past: whether there has been a tick, the ports of the requests
since the last one and of those in the interval that it has ended, and the copies since. -/
structure LoadRecord where
  ticked : Bool
  current : List (BitVec 16)
  preceding : List (BitVec 16)
  copies : List (BitVec 16 × RpsSignal)

/-- The record after a packet. -/
def LoadRecord.observe (record : LoadRecord) (transition : Transition) : LoadRecord :=
  match transition.action.role with
  | .tick => ⟨true, [], record.current, []⟩
  | .copy _ => { record with copies := (carried transition).toList ++ record.copies }
  | .request dstPort => { record with current := dstPort :: record.current }
  | .other => record

/-- The server ports that have had their copy in the present round. -/
def LoadRecord.served (record : LoadRecord) : List (BitVec 16) := record.copies.map Prod.fst

/-- The present round is complete: each server port has had its copy. -/
def LoadRecord.Complete (record : LoadRecord) (ports : Finset (BitVec 16)) : Prop :=
  ∀ port ∈ ports, port ∈ record.served

/-- The record of a run. -/
def record : List Transition → LoadRecord
  | [] => ⟨false, [], [], []⟩
  | transition :: past => (record past).observe transition

/-- The order of packets that the signal generator keeps: a tick comes when each server port
has had its copy, a copy comes once in a round, and requests go to the server ports, fewer
than `2 ^ 32 - 1` in an interval. -/
def InOrder (ports : Finset (BitVec 16)) (past : List Transition) (_ : EgressRegisters)
    (packet : EgressPacket) : Prop :=
  match packet.role with
  | .tick => (record past).ticked = true → (record past).Complete ports
  | .copy serverPort =>
    (record past).ticked = true ∧ serverPort ∈ ports ∧ serverPort ∉ (record past).served
  | .request dstPort => dstPort ∈ ports ∧ (record past).current.length + 1 < 2 ^ 32 - 1
  | .other => True

instance (record : LoadRecord) (ports : Finset (BitVec 16)) : Decidable (record.Complete ports) :=
  inferInstanceAs (Decidable (∀ port ∈ ports, port ∈ record.served))

instance (ports : Finset (BitVec 16)) (past : List Transition) (registers : EgressRegisters)
    (packet : EgressPacket) : Decidable (InOrder ports past registers packet) :=
  match role : packet.role with
  | .tick => decidable_of_iff ((record past).ticked = true → (record past).Complete ports)
      (by rw [InOrder, role])
  | .copy serverPort => decidable_of_iff ((record past).ticked = true ∧ serverPort ∈ ports ∧
      serverPort ∉ (record past).served) (by rw [InOrder, role])
  | .request dstPort => decidable_of_iff (dstPort ∈ ports ∧
      (record past).current.length + 1 < 2 ^ 32 - 1) (by rw [InOrder, role])
  | .other => .isTrue (by rw [InOrder, role]; trivial)

/-! ## The banks, seen from the active index -/

/-- The bank of an index. -/
def bank (registers : EgressRegisters) (index : BitVec 8) : Register (BitVec 16) (BitVec 32) :=
  if index = 0 then registers.regIndividualRps0 else registers.regIndividualRps1

/-- The index that the active one is swapped with. -/
def flip (index : BitVec 8) : BitVec 8 := if index = 0 then 1 else 0

/-- The active index. -/
def activeIdx (registers : EgressRegisters) : BitVec 8 := registers.regActive ()

/-- Replace the bank of an index. -/
def setBank (registers : EgressRegisters) (index : BitVec 8)
    (bank : Register (BitVec 16) (BitVec 32)) : EgressRegisters :=
  if index = 0 then { registers with regIndividualRps0 := bank }
  else { registers with regIndividualRps1 := bank }

variable (registers : EgressRegisters)

/-- Two flips of an index lead back to it. -/
theorem flip_flip {index : BitVec 8} (indexed : index = 0 ∨ index = 1) :
    flip (flip index) = index := by
  rcases indexed with rfl | rfl
  · rfl
  · rfl

/-- A flip yields one of the two banks. -/
theorem flip_indexed (index : BitVec 8) : flip index = 0 ∨ flip index = 1 := by
  unfold flip
  split
  · exact .inr rfl
  · exact .inl rfl

/-- A flip of one bank yields the other one. -/
theorem flip_ne {index : BitVec 8} (indexed : index = 0 ∨ index = 1) : flip index ≠ index := by
  rcases indexed with rfl | rfl
  · decide
  · decide

/-- Every index but zero is flipped to zero. -/
theorem flip_eq_zero_iff (index : BitVec 8) : flip index = 0 ↔ index ≠ 0 := by
  unfold flip
  split
  · rename_i zero
    exact iff_of_false (by decide) (not_not.mpr zero)
  · rename_i nonzero
    exact iff_of_true rfl nonzero

/-- A bank that is written reads as what was written. -/
theorem bank_setBank (index : BitVec 8) (bank : Register (BitVec 16) (BitVec 32)) :
    (registers.setBank index bank).bank index = bank := by
  unfold EgressRegisters.bank setBank
  split
  · rfl
  · rfl

/-- The other bank stays. -/
theorem bank_setBank_flip (index : BitVec 8) (bank : Register (BitVec 16) (BitVec 32)) :
    (registers.setBank index bank).bank (flip index) = registers.bank (flip index) := by
  unfold EgressRegisters.bank setBank
  by_cases zero : index = 0
  · rw [if_pos zero, if_neg (not_not.mpr zero ∘ (flip_eq_zero_iff index).mp),
      if_neg (not_not.mpr zero ∘ (flip_eq_zero_iff index).mp)]
  · rw [if_neg zero, if_pos ((flip_eq_zero_iff index).mpr zero),
      if_pos ((flip_eq_zero_iff index).mpr zero)]

/-- So it is seen from the other bank. -/
theorem bank_flip_setBank (index : BitVec 8) (bank : Register (BitVec 16) (BitVec 32)) :
    (registers.setBank (flip index) bank).bank index = registers.bank index := by
  unfold EgressRegisters.bank setBank
  by_cases zero : index = 0
  · rw [if_pos zero, if_pos zero, if_neg (not_not.mpr zero ∘ (flip_eq_zero_iff index).mp)]
  · rw [if_neg zero, if_neg zero, if_pos ((flip_eq_zero_iff index).mpr zero)]

/-- Writing a bank touches no other register. -/
theorem setBank_others (index : BitVec 8) (bank : Register (BitVec 16) (BitVec 32)) :
    (registers.setBank index bank).regActive = registers.regActive ∧
    (registers.setBank index bank).regSumRps = registers.regSumRps ∧
    (registers.setBank index bank).regMinRps = registers.regMinRps ∧
    (registers.setBank index bank).regMinRpsServerPort = registers.regMinRpsServerPort := by
  unfold setBank
  split
  · exact ⟨rfl, rfl, rfl, rfl⟩
  · exact ⟨rfl, rfl, rfl, rfl⟩

/-! ## The three branches, seen from the active index -/

/-- A tick makes the other bank the active one, clears its sum and forgets the minimum. -/
theorem swap_eq : registers.swap = { registers with
    regActive := fun _ => flip registers.activeIdx
    regSumRps := Function.update registers.regSumRps (flip registers.activeIdx) 0
    regMinRps := fun _ => BitVec.ofNat 32 (2 ^ 32 - 1) } := by
  have flipped : updateActiveRegIdx registers.activeIdx =
      (flip registers.activeIdx, flip registers.activeIdx) := by
    unfold updateActiveRegIdx flip
    split
    · rfl
    · rfl
  have active : registers.regActive.execute updateActiveRegIdx () =
      (fun _ => flip registers.activeIdx, flip registers.activeIdx) := by
    unfold Register.execute
    change (Function.update registers.regActive () (updateActiveRegIdx registers.activeIdx).1,
      (updateActiveRegIdx registers.activeIdx).2) = _
    rw [flipped]
    rfl
  unfold swap
  rw [active]
  rfl

/-- The minimum and its server, once a counter has been read. -/
theorem poll_eq (individual : BitVec 32) (egressRid : BitVec 16) :
    let polled := registers.regMinRps.execute (pollRegMinRps individual) ()
    polled.1 = (fun _ =>
      if registers.regMinRps () > individual then individual else registers.regMinRps ()) ∧
    (registers.regMinRpsServerPort.execute (writeRegMinRpsServerPort polled.2 egressRid) ()).1 =
      fun _ => if registers.regMinRps () > individual then egressRid
        else registers.regMinRpsServerPort () := by
  dsimp only
  by_cases smaller : registers.regMinRps () > individual
  · constructor
    · funext index
      rw [Register.execute_cell, pollRegMinRps, if_pos smaller, if_pos smaller]
    · funext index
      rw [Register.execute_cell, Register.execute_returned, pollRegMinRps, if_pos smaller,
        if_pos smaller]
      rfl
  · constructor
    · funext index
      rw [Register.execute_cell, pollRegMinRps, if_neg smaller, if_neg smaller]
    · funext index
      rw [Register.execute_cell, Register.execute_returned, pollRegMinRps, if_neg smaller,
        if_neg smaller]
      rfl

/-- A copy reads the other bank, clears its own counter there and keeps the smaller minimum. -/
theorem signal_eq (egressRid : BitVec 16) (hdr : EgressHeaders) :
    let other := flip registers.activeIdx
    let individual := registers.bank other egressRid
    registers.signal egressRid hdr = {
      registers := { registers.setBank other (Function.update (registers.bank other) egressRid 0) with
        regMinRps := fun _ =>
          if registers.regMinRps () > individual then individual else registers.regMinRps ()
        regMinRpsServerPort := fun _ =>
          if registers.regMinRps () > individual then egressRid
          else registers.regMinRpsServerPort () }
      hdr := { hdr with
        udpDstPort := egressRid
        rpsSignal := some ⟨registers.regSumRps other, individual⟩ }
      dropped := registers.regSumRps other == 0 } := by
  dsimp only
  have active : registers.regActive.execute readSnapshotRegIdx () =
      (registers.regActive, flip registers.activeIdx) :=
    Prod.ext (Register.execute_read _ _ _ fun _ => rfl) rfl
  have sum (index : BitVec 8) : registers.regSumRps.execute readRegSumRps index =
      (registers.regSumRps, registers.regSumRps index) :=
    Prod.ext (Register.execute_read _ _ _ fun _ => rfl) rfl
  obtain ⟨minimum, server⟩ := registers.poll_eq
    (registers.bank (flip registers.activeIdx) egressRid) egressRid
  unfold signal
  rw [active]
  dsimp only
  rw [sum, ← minimum, ← server]
  unfold setBank bank
  by_cases zero : flip registers.activeIdx = 0
  · simp only [if_pos zero]
    rfl
  · simp only [if_neg zero]
    rfl

/-- A request is counted in the active bank and in its sum. -/
theorem count_eq (dstPort : BitVec 16) :
    let active := registers.activeIdx
    registers.count dstPort =
      { registers.setBank active (Function.update (registers.bank active) dstPort
          (registers.bank active dstPort + 1)) with
        regSumRps := Function.update registers.regSumRps active
          (registers.regSumRps active + 1) } := by
  dsimp only
  have active : registers.regActive.execute readActiveRegIdx () =
      (registers.regActive, registers.activeIdx) :=
    Prod.ext (Register.execute_read _ _ _ fun _ => rfl) rfl
  unfold count
  rw [active]
  dsimp only
  unfold setBank bank
  split
  · rfl
  · rfl

/-! ## What each role does -/

variable {registers} {packet : EgressPacket}

/-- A tick swaps the banks. -/
theorem apply_tick (tick : packet.role = .tick) :
    (registers.apply packet).registers = registers.swap := by
  unfold EgressPacket.role at tick
  unfold apply
  split at tick
  · rename_i recirculated
    rw [if_pos recirculated]
  · split at tick
    · cases tick
    · split at tick
      · cases tick
      · cases tick

/-- A copy of a tick takes the count of its server along and clears it. -/
theorem apply_copy {serverPort : BitVec 16} (copy : packet.role = .copy serverPort) :
    registers.apply packet = registers.signal serverPort packet.hdr := by
  unfold EgressPacket.role at copy
  unfold apply
  split at copy
  · cases copy
  · rename_i elsewhere
    rw [if_neg elsewhere]
    cases found : packet.hdr.rpsSignal with
    | some signal =>
      rw [found] at copy
      cases copy
      rfl
    | none =>
      rw [found] at copy
      cases counted : packet.counted with
      | some dstPort =>
        rw [counted] at copy
        cases copy
      | none =>
        rw [counted] at copy
        cases copy

/-- A request counts for its server. -/
theorem apply_request {dstPort : BitVec 16} (request : packet.role = .request dstPort) :
    (registers.apply packet).registers = registers.count dstPort := by
  unfold EgressPacket.role at request
  unfold apply
  split at request
  · cases request
  · rename_i elsewhere
    rw [if_neg elsewhere]
    cases found : packet.hdr.rpsSignal with
    | some signal =>
      rw [found] at request
      cases request
    | none =>
      rw [found] at request
      cases counted : packet.counted with
      | some dstPort =>
        rw [counted] at request
        cases request
        rfl
      | none =>
        rw [counted] at request
        cases request

/-- Any other packet leaves the registers alone. -/
theorem apply_other (other : packet.role = .other) :
    (registers.apply packet).registers = registers := by
  unfold EgressPacket.role at other
  unfold apply
  split at other
  · cases other
  · rename_i elsewhere
    rw [if_neg elsewhere]
    cases found : packet.hdr.rpsSignal with
    | some signal =>
      rw [found] at other
      cases other
    | none =>
      rw [found] at other
      cases counted : packet.counted with
      | some dstPort =>
        rw [counted] at other
        cases other
      | none =>
        dsimp only
        split
        · rw [Register.execute_read _ _ _ fun _ => rfl]
        · rfl

/-- A copy carries the sum of the finished period and the count of its server in it. -/
theorem carried_copy {transition : Transition} {serverPort : BitVec 16}
    (copy : transition.action.role = .copy serverPort) :
    carried transition = some (serverPort,
      ⟨transition.source.regSumRps (flip transition.source.activeIdx),
        transition.source.bank (flip transition.source.activeIdx) serverPort⟩) := by
  unfold carried
  rw [copy, apply_copy copy, signal_eq]
  rfl

/-- Nothing but a copy carries anything. -/
theorem carried_of_not_copy {transition : Transition}
    (notCopy : ∀ serverPort, transition.action.role ≠ .copy serverPort) :
    carried transition = none := by
  unfold carried
  split
  · rename_i serverPort copy
    exact absurd copy (notCopy serverPort)
  · rfl

/-! ## The registers hold the numbers of the record -/

/-- The registers agree with a record. -/
structure Tally (ports : Finset (BitVec 16)) (record : LoadRecord)
    (registers : EgressRegisters) : Prop where
  indexed : registers.activeIdx = 0 ∨ registers.activeIdx = 1
  sumCurrent : (registers.regSumRps registers.activeIdx).toNat = record.current.length
  bankCurrent : ∀ port,
    (registers.bank registers.activeIdx port).toNat = record.current.count port
  sumPreceding :
    (registers.regSumRps (flip registers.activeIdx)).toNat = record.preceding.length
  bankPreceding : ∀ port, (registers.bank (flip registers.activeIdx) port).toNat =
    if port ∈ record.served then 0 else record.preceding.count port
  fewCurrent : record.current.length < 2 ^ 32 - 1
  fewPreceding : record.preceding.length < 2 ^ 32 - 1
  insideCurrent : ∀ port ∈ record.current, port ∈ ports
  insidePreceding : ∀ port ∈ record.preceding, port ∈ ports
  insideServed : ∀ port ∈ record.served, port ∈ ports
  once : record.served.Nodup
  waiting : record.ticked = false → record.preceding = []
  carries : ∀ copy ∈ record.copies, copy.2.sum.toNat = record.preceding.length ∧
    copy.2.individual.toNat = record.preceding.count copy.1
  least : ∀ port ∈ record.served,
    (registers.regMinRps ()).toNat ≤ record.preceding.count port
  chosen : record.ticked = true →
    (record.served = [] ∧ (registers.regMinRps ()).toNat = 2 ^ 32 - 1) ∨
      (registers.regMinRpsServerPort () ∈ record.served ∧ (registers.regMinRps ()).toNat =
        record.preceding.count (registers.regMinRpsServerPort ()))

variable {ports : Finset (BitVec 16)} {record : LoadRecord}

/-- Nothing has been counted at the start. -/
theorem Tally.new : Tally ports ⟨false, [], [], []⟩ new where
  indexed := .inl rfl
  sumCurrent := rfl
  bankCurrent _ := rfl
  sumPreceding := rfl
  bankPreceding _ := rfl
  fewCurrent := by decide
  fewPreceding := by decide
  insideCurrent _ member := absurd member List.not_mem_nil
  insidePreceding _ member := absurd member List.not_mem_nil
  insideServed _ member := absurd member List.not_mem_nil
  once := List.nodup_nil
  waiting _ := rfl
  carries _ member := absurd member List.not_mem_nil
  least _ member := absurd member List.not_mem_nil
  chosen ticked := by cases ticked

/-- When a round is complete, nothing is left in the bank that it has read. -/
theorem Tally.cleared (tally : Tally ports record registers)
    (complete : record.ticked = true → record.Complete ports) (port : BitVec 16) :
    (if port ∈ record.served then 0 else record.preceding.count port) = 0 := by
  by_cases ticked : record.ticked = true
  · split
    · rfl
    · rename_i unserved
      refine List.count_eq_zero.mpr fun member => unserved ?_
      exact complete ticked port (tally.insidePreceding port member)
  · rw [tally.waiting (Bool.eq_false_iff.mpr ticked)]
    split
    · rfl
    · rfl

/-- A tick closes the period: the bank that counted is read from now on, and the other one has
been cleared by the copies of the tick before. -/
theorem Tally.tick (tally : Tally ports record registers)
    (complete : record.ticked = true → record.Complete ports) :
    Tally ports ⟨true, [], record.current, []⟩ registers.swap := by
  rw [swap_eq]
  have flipped := flip_flip tally.indexed
  exact {
    indexed := flip_indexed _
    sumCurrent := by
      change (Function.update registers.regSumRps (flip registers.activeIdx) 0
        (flip registers.activeIdx)).toNat = 0
      rw [Function.update_self]
      rfl
    bankCurrent := fun port => (tally.bankPreceding port).trans (tally.cleared complete port)
    sumPreceding := by
      change (Function.update registers.regSumRps (flip registers.activeIdx) 0
        (flip (flip registers.activeIdx))).toNat = record.current.length
      rw [flipped, Function.update_of_ne (flip_ne tally.indexed).symm]
      exact tally.sumCurrent
    bankPreceding := fun port => by
      change (registers.bank (flip (flip registers.activeIdx)) port).toNat = _
      rw [flipped, tally.bankCurrent port]
      exact (if_neg List.not_mem_nil).symm
    fewCurrent := Nat.pos_of_ne_zero (by decide)
    fewPreceding := tally.fewCurrent
    insideCurrent := fun _ member => absurd member List.not_mem_nil
    insidePreceding := tally.insideCurrent
    insideServed := fun _ member => absurd member List.not_mem_nil
    once := List.nodup_nil
    waiting := fun ticked => by cases ticked
    carries := fun _ member => absurd member List.not_mem_nil
    least := fun _ member => absurd member List.not_mem_nil
    chosen := fun _ => .inl ⟨rfl, rfl⟩ }

/-- A request is added to the count of its server and to the sum of the period. -/
theorem Tally.request (tally : Tally ports record registers) {dstPort : BitVec 16}
    (inside : dstPort ∈ ports) (few : record.current.length + 1 < 2 ^ 32 - 1) :
    Tally ports { record with current := dstPort :: record.current } (registers.count dstPort) := by
  rw [count_eq]
  obtain ⟨active, sums, minimum, server⟩ := registers.setBank_others registers.activeIdx
    (Function.update (registers.bank registers.activeIdx) dstPort
      (registers.bank registers.activeIdx dstPort + 1))
  have counted := registers.bank_setBank registers.activeIdx
    (Function.update (registers.bank registers.activeIdx) dstPort
      (registers.bank registers.activeIdx dstPort + 1))
  have kept := registers.bank_setBank_flip registers.activeIdx
    (Function.update (registers.bank registers.activeIdx) dstPort
      (registers.bank registers.activeIdx dstPort + 1))
  generalize registers.setBank registers.activeIdx
    (Function.update (registers.bank registers.activeIdx) dstPort
      (registers.bank registers.activeIdx dstPort + 1)) = written at *
  have index : written.activeIdx = registers.activeIdx := congrFun active ()
  have different := flip_ne tally.indexed
  have add_one {value : BitVec 32} (small : value.toNat ≤ record.current.length) :
      (value + 1).toNat = value.toNat + 1 := by
    rw [BitVec.toNat_add]
    exact Nat.mod_eq_of_lt (by change value.toNat + 1 < _; omega)
  constructor
  case indexed => exact index.symm ▸ tally.indexed
  case sumCurrent =>
    change (Function.update registers.regSumRps registers.activeIdx _ written.activeIdx).toNat = _
    rw [index, Function.update_self, add_one (Nat.le_of_eq tally.sumCurrent), tally.sumCurrent]
    rfl
  case bankCurrent =>
    intro port
    change (written.bank written.activeIdx port).toNat = (dstPort :: record.current).count port
    rw [index, counted, Function.update_apply, List.count_cons]
    by_cases same : port = dstPort
    · subst same
      have small : (registers.bank registers.activeIdx port).toNat ≤ record.current.length := by
        rw [tally.bankCurrent]
        exact List.count_le_length
      rw [if_pos rfl, add_one small, tally.bankCurrent, if_pos (beq_self_eq_true port)]
    · rw [if_neg same, tally.bankCurrent, if_neg fun equal => same (eq_of_beq equal).symm,
        Nat.add_zero]
  case sumPreceding =>
    change (Function.update registers.regSumRps registers.activeIdx _
      (flip written.activeIdx)).toNat = _
    rw [index, Function.update_of_ne different]
    exact tally.sumPreceding
  case bankPreceding =>
    intro port
    change (written.bank (flip written.activeIdx) port).toNat = _
    rw [index, kept]
    exact tally.bankPreceding port
  case fewCurrent => exact few
  case fewPreceding => exact tally.fewPreceding
  case insideCurrent => exact List.forall_mem_cons.mpr ⟨inside, tally.insideCurrent⟩
  case insidePreceding => exact tally.insidePreceding
  case insideServed => exact tally.insideServed
  case once => exact tally.once
  case waiting => exact tally.waiting
  case carries => exact tally.carries
  case least =>
    change ∀ port ∈ record.served, (written.regMinRps ()).toNat ≤ _
    rw [minimum]
    exact tally.least
  case chosen =>
    change record.ticked = true →
      (record.served = [] ∧ (written.regMinRps ()).toNat = 2 ^ 32 - 1) ∨
        (written.regMinRpsServerPort () ∈ record.served ∧ (written.regMinRps ()).toNat =
          record.preceding.count (written.regMinRpsServerPort ()))
    rw [minimum, server]
    exact tally.chosen

/-- The smaller of a minimum and a value that it is compared with. -/
theorem smaller_le (minimum value : BitVec 32) :
    (if minimum > value then value else minimum).toNat ≤ minimum.toNat ∧
      (if minimum > value then value else minimum).toNat ≤ value.toNat := by
  split
  · rename_i smaller
    exact ⟨Nat.le_of_lt smaller, Nat.le_refl _⟩
  · rename_i notSmaller
    exact ⟨Nat.le_refl _, BitVec.not_lt.mp notSmaller⟩

/-- A copy reports one server and clears its count, and keeps the least of the counts that have
been reported. -/
theorem Tally.copy (tally : Tally ports record registers) {serverPort : BitVec 16}
    (ticked : record.ticked = true) (inside : serverPort ∈ ports)
    (unserved : serverPort ∉ record.served) (hdr : EgressHeaders) :
    Tally ports { record with copies := (serverPort,
        ⟨registers.regSumRps (flip registers.activeIdx),
          registers.bank (flip registers.activeIdx) serverPort⟩) :: record.copies }
      (registers.signal serverPort hdr).registers := by
  rw [signal_eq]
  dsimp only
  obtain ⟨active, sums, -, -⟩ := registers.setBank_others (flip registers.activeIdx)
    (Function.update (registers.bank (flip registers.activeIdx)) serverPort 0)
  have cleared := registers.bank_setBank (flip registers.activeIdx)
    (Function.update (registers.bank (flip registers.activeIdx)) serverPort 0)
  have kept := registers.bank_flip_setBank registers.activeIdx
    (Function.update (registers.bank (flip registers.activeIdx)) serverPort 0)
  generalize registers.setBank (flip registers.activeIdx)
    (Function.update (registers.bank (flip registers.activeIdx)) serverPort 0) = written at *
  have index : written.activeIdx = registers.activeIdx := congrFun active ()
  have read : (registers.bank (flip registers.activeIdx) serverPort).toNat =
      record.preceding.count serverPort := (tally.bankPreceding serverPort).trans (if_neg unserved)
  constructor
  case indexed => exact index.symm ▸ tally.indexed
  case sumCurrent =>
    change (written.regSumRps written.activeIdx).toNat = _
    rw [index, sums]
    exact tally.sumCurrent
  case bankCurrent =>
    intro port
    change (written.bank written.activeIdx port).toNat = _
    rw [index, kept]
    exact tally.bankCurrent port
  case sumPreceding =>
    change (written.regSumRps (flip written.activeIdx)).toNat = _
    rw [index, sums]
    exact tally.sumPreceding
  case bankPreceding =>
    intro port
    change (written.bank (flip written.activeIdx) port).toNat =
      if port ∈ serverPort :: record.served then 0 else record.preceding.count port
    rw [index, cleared, Function.update_apply]
    by_cases same : port = serverPort
    · rw [if_pos same, if_pos (same ▸ List.mem_cons_self)]
      rfl
    · rw [if_neg same, tally.bankPreceding]
      simp only [List.mem_cons, same, false_or]
  case fewCurrent => exact tally.fewCurrent
  case fewPreceding => exact tally.fewPreceding
  case insideCurrent => exact tally.insideCurrent
  case insidePreceding => exact tally.insidePreceding
  case insideServed => exact List.forall_mem_cons.mpr ⟨inside, tally.insideServed⟩
  case once => exact List.nodup_cons.mpr ⟨unserved, tally.once⟩
  case waiting => exact tally.waiting
  case carries =>
    exact List.forall_mem_cons.mpr ⟨⟨tally.sumPreceding, read⟩, tally.carries⟩
  case least =>
    change ∀ port ∈ serverPort :: record.served, (if registers.regMinRps () >
      registers.bank (flip registers.activeIdx) serverPort then
        registers.bank (flip registers.activeIdx) serverPort else registers.regMinRps ()).toNat ≤
      record.preceding.count port
    obtain ⟨belowMinimum, belowValue⟩ := smaller_le (registers.regMinRps ())
      (registers.bank (flip registers.activeIdx) serverPort)
    rw [read] at belowValue
    exact List.forall_mem_cons.mpr
      ⟨belowValue, fun port member => belowMinimum.trans (tally.least port member)⟩
  case chosen =>
    intro _
    refine .inr ?_
    change (if registers.regMinRps () > registers.bank (flip registers.activeIdx) serverPort then
        serverPort else registers.regMinRpsServerPort ()) ∈ serverPort :: record.served ∧
      (if registers.regMinRps () > registers.bank (flip registers.activeIdx) serverPort then
        registers.bank (flip registers.activeIdx) serverPort else registers.regMinRps ()).toNat =
      record.preceding.count (if registers.regMinRps () >
        registers.bank (flip registers.activeIdx) serverPort then serverPort
        else registers.regMinRpsServerPort ())
    by_cases smaller :
      registers.regMinRps () > registers.bank (flip registers.activeIdx) serverPort
    · rw [if_pos smaller, if_pos smaller]
      exact ⟨List.mem_cons_self, read⟩
    · rw [if_neg smaller, if_neg smaller]
      obtain ⟨-, untouched⟩ | ⟨member, equal⟩ := tally.chosen ticked
      · have atMost := BitVec.le_def.mp (BitVec.not_lt.mp smaller)
        have within : record.preceding.count serverPort ≤ record.preceding.length :=
          List.count_le_length
        have few := tally.fewPreceding
        omega
      · exact ⟨List.mem_cons_of_mem _ member, equal⟩

/-- The registers of a run in order agree with its record. -/
theorem tally_of_run {past : List Transition} (run : Run new past registers)
    (inOrder : Follows (InOrder ports) past) : Tally ports (EgressRegisters.record past) registers := by
  refine follows_invariant (fun past => Tally ports (EgressRegisters.record past)) Tally.new ?_ run
    inOrder
  intro past source packet target _ ordered tally advanced
  cases advanced
  unfold InOrder at ordered
  change Tally ports ((EgressRegisters.record past).observe _) _
  unfold LoadRecord.observe
  dsimp only
  cases role : packet.role with
  | tick =>
    rw [role] at ordered
    rw [apply_tick role]
    exact tally.tick ordered
  | copy serverPort =>
    rw [role] at ordered
    obtain ⟨ticked, inside, unserved⟩ := ordered
    dsimp only
    rw [carried_copy role, apply_copy role]
    exact tally.copy ticked inside unserved packet.hdr
  | request dstPort =>
    rw [role] at ordered
    rw [apply_request role]
    exact tally.request ordered.1 ordered.2
  | other =>
    rw [apply_other role]
    exact tally

/-! ## Rounds and intervals -/

/-- What has been reported of a server port in all rounds. -/
def reported (port : BitVec 16) (past : List Transition) : Nat :=
  (((reports past).filter (·.1 = port)).map (·.2.individual.toNat)).sum

/-- What has still to be reported of a server port in the present round. -/
def LoadRecord.due (record : LoadRecord) (port : BitVec 16) : Nat :=
  if port ∈ record.served then 0 else record.preceding.count port

/-- Nothing more is due to a server port that has got its copy. -/
theorem LoadRecord.due_copy (record : LoadRecord) (copy : BitVec 16 × RpsSignal)
    (port : BitVec 16) :
    LoadRecord.due { record with copies := copy :: record.copies } port =
      if port = copy.1 then 0 else record.due port := by
  unfold due served
  by_cases same : port = copy.1
  · rw [if_pos same, List.map_cons, if_pos (same ▸ List.mem_cons_self)]
  · simp only [List.map_cons, List.mem_cons, same, false_or, if_false]

/-- A copy adds its number to what has been reported of its server port. -/
theorem reported_copy {transition : Transition} {past : List Transition}
    {copy : BitVec 16 × RpsSignal} (carries : carried transition = some copy) (port : BitVec 16) :
    reported port (transition :: past) =
      (if port = copy.1 then copy.2.individual.toNat else 0) + reported port past := by
  have grown : reports (transition :: past) = copy :: reports past := by
    rw [reports, carries, Option.toList_some, List.singleton_append]
  unfold reported
  rw [grown, List.filter_cons]
  by_cases same : port = copy.1
  · rw [if_pos (decide_eq_true same.symm), if_pos same, List.map_cons, List.sum_cons]
  · rw [if_neg (by simpa using Ne.symm same), if_neg same, Nat.zero_add]

/-- A packet that is no copy adds nothing to what a server has been reported with. -/
theorem reported_of_not_copy {transition : Transition} {past : List Transition}
    (notCopy : ∀ serverPort, transition.action.role ≠ .copy serverPort) (port : BitVec 16) :
    reported port (transition :: past) = reported port past := by
  unfold reported
  rw [reports, carried_of_not_copy notCopy]
  rfl

/-- Every request to a port has been reported once, is due in the present round or belongs
to the present interval. -/
theorem reported_once {past : List Transition} (run : Run new past registers)
    (inOrder : Follows (InOrder ports) past) (port : BitVec 16) :
    reported port past + (EgressRegisters.record past).due port +
      (EgressRegisters.record past).current.count port = (requests past).count port := by
  induction run with
  | nil => rfl
  | @step past source target packet earlier advanced inductionHypothesis =>
    obtain ⟨ordered, inOrder⟩ := inOrder
    have tally := tally_of_run earlier inOrder
    have before := inductionHypothesis inOrder
    unfold InOrder at ordered
    change _ + ((EgressRegisters.record past).observe _).due port +
      ((EgressRegisters.record past).observe _).current.count port = _
    unfold requests LoadRecord.observe
    dsimp only
    cases role : packet.role with
    | tick =>
      rw [role] at ordered
      rw [reported_of_not_copy fun serverPort copy => by cases role.symm.trans copy]
      have cleared : (EgressRegisters.record past).due port = 0 := tally.cleared ordered port
      rw [cleared] at before
      exact before
    | copy serverPort =>
      rw [role] at ordered
      obtain ⟨-, -, unserved⟩ := ordered
      have read := (tally.bankPreceding serverPort).trans (if_neg unserved)
      rw [carried_copy role, reported_copy (carried_copy role)]
      dsimp only [Option.toList_some, List.singleton_append]
      rw [LoadRecord.due_copy, ← before]
      by_cases same : port = serverPort
      · subst same
        have due : (EgressRegisters.record past).due port =
            (EgressRegisters.record past).preceding.count port := if_neg unserved
        rw [if_pos rfl, if_pos rfl, read, due]
        omega
      · rw [if_neg same, if_neg same]
        omega
    | request dstPort =>
      rw [reported_of_not_copy fun serverPort copy => by cases role.symm.trans copy]
      rw [List.count_cons, List.count_cons, ← before]
      exact (Nat.add_assoc _ _ _).symm
    | other =>
      rw [reported_of_not_copy fun serverPort copy => by cases role.symm.trans copy]
      exact before

/-- In a complete round the numbers of the server ports add up. -/
theorem Tally.total (tally : Tally ports record registers) (complete : record.Complete ports) :
    (record.copies.map (·.2.individual.toNat)).sum = record.preceding.length := by
  have same : record.served.toFinset = ports := by
    ext port
    rw [List.mem_toFinset]
    exact ⟨tally.insideServed port, complete port⟩
  calc (record.copies.map (·.2.individual.toNat)).sum
      = (record.copies.map fun copy => record.preceding.count copy.1).sum := by
        rw [List.map_congr_left fun copy member => (tally.carries copy member).2]
    _ = (record.served.map (record.preceding.count ·)).sum := by
        rw [LoadRecord.served, List.map_map]
        rfl
    _ = ∑ port ∈ ports, record.preceding.count port := by
        rw [← List.sum_toFinset _ tally.once, same]
    _ = record.preceding.length := by
        have all := Multiset.sum_count_eq_card
          (m := (record.preceding : Multiset (BitVec 16))) tally.insidePreceding
        simpa only [Multiset.coe_count, Multiset.coe_card] using all

/-- After a complete round the server port that is kept has the smallest number. -/
theorem Tally.minimal (tally : Tally ports record registers) (ticked : record.ticked = true)
    (complete : record.Complete ports) {port : BitVec 16} (member : port ∈ ports) :
    registers.regMinRpsServerPort () ∈ ports ∧
      record.preceding.count (registers.regMinRpsServerPort ()) ≤ record.preceding.count port := by
  obtain ⟨empty, -⟩ | ⟨chosen, equal⟩ := tally.chosen ticked
  · have served := complete port member
    rw [empty] at served
    cases served
  · rw [← equal]
    exact ⟨tally.insideServed _ chosen, tally.least port (complete port member)⟩

/-- In every run in order each copy of a round carries the number of requests of the preceding
interval and of those to its server port; every request has been reported in one round, is due
in the present one or belongs to the present interval; and after a complete round the numbers
add up to the sum and the port that is kept has the smallest. The run may be cut anywhere, so
that this holds of each of its rounds.

Proof: `Tally` compares the registers with the list of requests, split at the ticks into
reported, due and current ones. Each kind of packet moves a request from one part to the
next, and the minimum is updated with each copy. -/
theorem load_snapshot_consistent (ports : Finset (BitVec 16)) {past : List Transition}
    {registers : EgressRegisters} (run : Run new past registers)
    (inOrder : Follows (InOrder ports) past) :
    (∀ copy ∈ (EgressRegisters.record past).copies,
      copy.2.sum.toNat = (EgressRegisters.record past).preceding.length ∧
      copy.2.individual.toNat = (EgressRegisters.record past).preceding.count copy.1) ∧
    (∀ port, reported port past + (EgressRegisters.record past).due port +
      (EgressRegisters.record past).current.count port = (requests past).count port) ∧
    ((EgressRegisters.record past).ticked = true →
      (EgressRegisters.record past).Complete ports →
      ((EgressRegisters.record past).copies.map (·.2.individual.toNat)).sum =
        (EgressRegisters.record past).preceding.length ∧
      ∀ port ∈ ports, registers.regMinRpsServerPort () ∈ ports ∧
        (EgressRegisters.record past).preceding.count (registers.regMinRpsServerPort ()) ≤
          (EgressRegisters.record past).preceding.count port) := by
  have tally := tally_of_run run inOrder
  refine ⟨tally.carries, reported_once run inOrder, fun ticked complete => ⟨tally.total complete, ?_⟩⟩
  intro port member
  exact tally.minimal ticked complete member

end EgressRegisters

/-- A packet to the recirculation port. -/
def EgressPacket.sampleTick : EgressPacket := ⟨PIPE_0_RECIRC, 0, ⟨0, none, 0, none, none⟩⟩

/-- A data packet of 100 bytes to a server port. -/
def EgressPacket.sampleRequest (dstPort : BitVec 16) : EgressPacket :=
  ⟨SERVER_EGRESS_PORT, 0, ⟨100, some ⟨dstPort, 0b00011000⟩, 0, none, none⟩⟩

/-- The copy of the signal packet for a server port. -/
def EgressPacket.sampleCopy (serverPort : BitVec 16) : EgressPacket :=
  ⟨SERVER_EGRESS_PORT, serverPort, ⟨48, none, 7777, none, some ⟨0, 0⟩⟩⟩

namespace EgressRegisters

/-- Two servers: three requests, a tick, and a round in which another request arrives. The
copies carry 3 with 2 and 1, and the server with one request is kept. -/
theorem load_snapshot_two_servers :
    ∃ past registers, Run new past registers ∧
      (EgressRegisters.record past).copies = [(10001, ⟨3, 1⟩), (10000, ⟨3, 2⟩)] ∧
      registers.regMinRpsServerPort () = 10001 ∧
      (∀ port, reported port past + (EgressRegisters.record past).due port +
        (EgressRegisters.record past).current.count port = (requests past).count port) := by
  have run : Run new _ _ := @run_of_execute _ _ _ step new
    [.sampleRequest 10000, .sampleRequest 10001, .sampleRequest 10000, .sampleTick,
      .sampleCopy 10000, .sampleRequest 10001, .sampleCopy 10001] _ _ _ _ .nil rfl
  refine ⟨_, _, run, ?_, ?_, ?_⟩
  · rfl
  · rfl
  · exact (load_snapshot_consistent {10000, 10001} run (by decide)).2.1

end EgressRegisters

end Capybara
