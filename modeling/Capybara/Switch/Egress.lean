import Capybara.Lib.Registers

/-!
# The egress of the switch

`switch_fe/capybara_switch_fe.p4`: the registers of the egress pipeline and its `apply`
block. Requests to the servers are counted in one of two banks. A packet to the
recirculation port swaps the banks; the copies of the signal packet that follow read the
other bank, one for each server port, and keep the least loaded server.

A packet is given by its port, the replication id of the copy and the header fields that
the block reads or writes. Headers that are not valid are absent. Mirroring, the register
that translates replication ids, the round robin and the counter are not used by the block.
-/

namespace Capybara

open Registers

/-- `PortId_t`. -/
abbrev PortId := BitVec 9

/-- `PIPE_0_RECIRC`. -/
def PIPE_0_RECIRC : PortId := 68

/-- The egress port of node 9, where the servers are. -/
def SERVER_EGRESS_PORT : PortId := 24

/-- The flag byte of a migration message that prepares a migration. -/
def PREPARE_MIG_FLAG : BitVec 8 := 0b00100000

/-- The fields of `tcp_h` that the egress reads. -/
structure EgressTcp where
  dstPort : BitVec 16
  flags : BitVec 8
  deriving DecidableEq, Repr

/-- `rps_signal_h` behind its signature. -/
structure RpsSignal where
  sum : BitVec 32
  individual : BitVec 32
  deriving DecidableEq, Repr

/-- `my_egress_headers_t`; `tcpmig` is the flag byte of the migration header. The total
length counts if there is an IPv4 header, the UDP port if there is a UDP header. -/
structure EgressHeaders where
  totalLen : BitVec 16
  tcp : Option EgressTcp
  udpDstPort : BitVec 16
  tcpmig : Option (BitVec 8)
  rpsSignal : Option RpsSignal
  deriving DecidableEq, Repr

/-- A packet in the egress, with its intrinsic metadata. -/
structure EgressPacket where
  egressPort : PortId
  egressRid : BitVec 16
  hdr : EgressHeaders
  deriving DecidableEq, Repr

/-! ## The registers and their actions -/

/-- The registers of `Egress`. -/
structure EgressRegisters where
  regActive : Register Unit (BitVec 8)
  regSumRps : Register (BitVec 8) (BitVec 32)
  regIndividualRps0 : Register (BitVec 16) (BitVec 32)
  regIndividualRps1 : Register (BitVec 16) (BitVec 32)
  regMinRps : Register Unit (BitVec 32)
  regMinRpsServerPort : Register Unit (BitVec 16)

/-- Registers begin with zeros. -/
def EgressRegisters.new : EgressRegisters :=
  ⟨fun _ => 0, fun _ => 0, fun _ => 0, fun _ => 0, fun _ => 0, fun _ => 0⟩

/-- `update_active_reg_idx`. -/
def updateActiveRegIdx : RegisterAction (BitVec 8) (BitVec 8) := fun val =>
  if val = 0 then (1, 1) else (0, 0)

/-- `read_active_reg_idx`. -/
def readActiveRegIdx : RegisterAction (BitVec 8) (BitVec 8) := fun val => (val, val)

/-- `read_snapshot_reg_idx`. -/
def readSnapshotRegIdx : RegisterAction (BitVec 8) (BitVec 8) := fun val =>
  (val, if val = 0 then 1 else 0)

/-- `init_reg_sum_rps`. -/
def initRegSumRps : RegisterAction (BitVec 32) Unit := fun _ => (0, ())

/-- `read_reg_sum_rps`. -/
def readRegSumRps : RegisterAction (BitVec 32) (BitVec 32) := fun val => (val, val)

/-- `add_reg_sum_rps`, `add_reg_individual_rps_0` and `add_reg_individual_rps_1`. -/
def addReg : RegisterAction (BitVec 32) Unit := fun val => (val + 1, ())

/-- `read_reg_individual_rps_0` and `read_reg_individual_rps_1`: the counter is cleared. -/
def readRegIndividualRps : RegisterAction (BitVec 32) (BitVec 32) := fun val => (0, val)

/-- `init_reg_min_rps`. -/
def initRegMinRps : RegisterAction (BitVec 32) Unit := fun _ => ((1 <<< 32) - 1, ())

/-- `poll_reg_min_rps`. -/
def pollRegMinRps (individual : BitVec 32) : RegisterAction (BitVec 32) (BitVec 1) := fun val =>
  if val > individual then (individual, 1) else (val, 0)

/-- `write_reg_min_rps_server_port`. -/
def writeRegMinRpsServerPort (isMinRpsUpdated : BitVec 1) (dstPort : BitVec 16) :
    RegisterAction (BitVec 16) Unit := fun val =>
  if isMinRpsUpdated = 1 then (dstPort, ()) else (val, ())

/-- `read_reg_min_rps_server_port`. -/
def readRegMinRpsServerPort : RegisterAction (BitVec 16) (BitVec 16) := fun val => (val, val)

/-! ## The block -/

/-- What a packet leaves behind: the registers, its headers and whether it is dropped. -/
structure EgressOutcome where
  registers : EgressRegisters
  hdr : EgressHeaders
  dropped : Bool

namespace EgressRegisters

/-- The branch of a packet to the recirculation port. -/
def swap (registers : EgressRegisters) : EgressRegisters :=
  let (regActive, activeRegIdx) := registers.regActive.execute updateActiveRegIdx ()
  { registers with
    regActive
    regSumRps := (registers.regSumRps.execute initRegSumRps activeRegIdx).1
    regMinRps := (registers.regMinRps.execute initRegMinRps ()).1 }

/-- The branch of a copy of the signal packet. -/
def signal (registers : EgressRegisters) (egressRid : BitVec 16) (hdr : EgressHeaders) :
    EgressOutcome :=
  let udpDstPort := egressRid
  let (regActive, snapshotRegIdx) := registers.regActive.execute readSnapshotRegIdx ()
  let (regSumRps, sum) := registers.regSumRps.execute readRegSumRps snapshotRegIdx
  let registers := { registers with regActive, regSumRps }
  let (registers, individual) :=
    if snapshotRegIdx = 0 then
      let (regIndividualRps0, individual) :=
        registers.regIndividualRps0.execute readRegIndividualRps udpDstPort
      ({ registers with regIndividualRps0 }, individual)
    else
      let (regIndividualRps1, individual) :=
        registers.regIndividualRps1.execute readRegIndividualRps udpDstPort
      ({ registers with regIndividualRps1 }, individual)
  let (regMinRps, isMinRpsUpdated) := registers.regMinRps.execute (pollRegMinRps individual) ()
  let regMinRpsServerPort := (registers.regMinRpsServerPort.execute
    (writeRegMinRpsServerPort isMinRpsUpdated udpDstPort) ()).1
  { registers := { registers with regMinRps, regMinRpsServerPort }
    hdr := { hdr with udpDstPort, rpsSignal := some ⟨sum, individual⟩ }
    dropped := sum == 0 }

/-- The branch of a request. -/
def count (registers : EgressRegisters) (dstPort : BitVec 16) : EgressRegisters :=
  let (regActive, activeRegIdx) := registers.regActive.execute readActiveRegIdx ()
  let regSumRps := (registers.regSumRps.execute addReg activeRegIdx).1
  let registers := { registers with regActive, regSumRps }
  if activeRegIdx = 0 then
    { registers with
      regIndividualRps0 := (registers.regIndividualRps0.execute addReg dstPort).1 }
  else
    { registers with
      regIndividualRps1 := (registers.regIndividualRps1.execute addReg dstPort).1 }

end EgressRegisters

/-- A request with a payload to the servers: neither a SYN nor 40 bytes in all. -/
def EgressPacket.counted (packet : EgressPacket) : Option (BitVec 16) :=
  match packet.hdr.tcp with
  | some tcp =>
    if tcp.flags[1] ≠ true ∧ packet.hdr.totalLen ≠ 40 ∧ packet.egressPort = SERVER_EGRESS_PORT then
      some tcp.dstPort
    else none
  | none => none

/-- `Egress`, the `apply` block. -/
def EgressRegisters.apply (registers : EgressRegisters) (packet : EgressPacket) :
    EgressOutcome :=
  if packet.egressPort = PIPE_0_RECIRC then ⟨registers.swap, packet.hdr, false⟩
  else match packet.hdr.rpsSignal with
  | some _ => registers.signal packet.egressRid packet.hdr
  | none =>
    match packet.counted with
    | some dstPort => ⟨registers.count dstPort, packet.hdr, false⟩
    | none =>
      if packet.hdr.tcpmig = some PREPARE_MIG_FLAG then
        let (regMinRpsServerPort, udpDstPort) :=
          registers.regMinRpsServerPort.execute readRegMinRpsServerPort ()
        ⟨{ registers with regMinRpsServerPort }, { packet.hdr with udpDstPort }, false⟩
      else ⟨registers, packet.hdr, false⟩

end Capybara
