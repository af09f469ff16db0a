import Capybara.Lib.Registers
import Capybara.Switch.Egress

/-!
# The ingress of the switch

`switch_fe/capybara_switch_fe.p4` with `migration_helper.p4`: the registers of the ingress
pipeline and its `apply` block. A slot is the hash of a client's address. The first packet of
a connection writes the client and the server that is chosen for it into the registers of
its slot, later packets compare the client and read the server, and the answer to the
preparation of a migration replaces the server.

The hash is a parameter. A MAC address is handled in the two slices that are stored. An
out-parameter that the selected action does not assign keeps its value. Fields that a packet
does not have, and hashes that were not computed, have arbitrary values, which belong to the
packet. Mirroring, digests and the controls that are declared but not applied are left out.
-/

namespace Capybara

open Registers

/-! ## Packets -/

/-- A MAC address in its slices `[47:16]` and `[15:0]`. -/
structure MacSlices where
  hi32 : BitVec 32
  lo16 : BitVec 16
  deriving DecidableEq, Repr

/-- The slices of an address. -/
def MacSlices.of (mac : BitVec 48) : MacSlices := ⟨mac.extractLsb' 16 32, mac.extractLsb' 0 16⟩

/-- The address of a client, as `calc_hash` takes it. -/
@[ext] structure ClientAddress where
  ip : BitVec 32
  port : BitVec 16
  deriving DecidableEq, Repr

/-- The address of a server, with its link address. -/
structure ServerAddress where
  mac : MacSlices
  ip : BitVec 32
  port : BitVec 16
  deriving DecidableEq, Repr

/-- `FE_MAC`, `FE_IP` and `FE_PORT`. -/
def FRONTEND : ServerAddress := ⟨.of 0x08c0ebb6e805, 0x0a000108, 55555⟩

/-- `BE_MAC`. -/
def BE_MAC : MacSlices := .of 0x08c0ebb6c5ad

/-- `BE_IP`. -/
def BE_IP : BitVec 32 := 0x0a000109

/-- The flags of a SYN that has no other flag. -/
def SYN_FLAGS : BitVec 8 := 0b00000010

/-- The flag byte of a `PREPARE_MIGRATION_ACK` with the load flag and no other. -/
def PREPARE_MIG_ACK_FLAG : BitVec 8 := 0b00110001

/-- The fields of `tcp_h` that the ingress uses. -/
structure IngressTcp where
  srcPort : BitVec 16
  dstPort : BitVec 16
  flags : BitVec 8
  deriving DecidableEq, Repr

/-- The fields of `udp_h` and `tcpmig_h` that the ingress uses. -/
structure IngressTcpmig where
  udpSrcPort : BitVec 16
  udpChecksum : BitVec 16
  client : ClientAddress
  flag : BitVec 8
  deriving DecidableEq, Repr

/-- What the parser finds behind an IPv4 header. -/
inductive IngressPayload where
  | tcp (hdr : IngressTcp)
  | tcpmig (hdr : IngressTcpmig)
  | other
  deriving DecidableEq, Repr

/-- The fields of `ipv4_h` that the ingress uses, and what follows. -/
structure IngressIpv4 where
  srcIp : BitVec 32
  dstIp : BitVec 32
  payload : IngressPayload
  deriving DecidableEq, Repr

/-- Values that the program reads without having set them. -/
structure Unset where
  hash1 : BitVec 16
  hash2 : BitVec 16
  tcpSrcPort : BitVec 16
  tcpDstPort : BitVec 16
  deriving DecidableEq, Repr

/-- A packet in the ingress. `pktgen` is there for a packet of the timer, with the source
address of its remaining Ethernet header. -/
structure IngressPacket where
  ingressPort : PortId
  pktgen : Option MacSlices
  srcMac : MacSlices
  dstMac : MacSlices
  ipv4 : Option IngressIpv4
  unset : Unset
  deriving DecidableEq, Repr

/-- Where the traffic manager sends a packet. -/
inductive Forwarding where
  | send (port : PortId)
  | multicast (group : BitVec 16)
  | drop
  deriving DecidableEq, Repr

/-- `l2_forwarding`; `broadcast` is the first multicast group. -/
def l2Forwarding (dstMac : MacSlices) : Forwarding :=
  if dstMac = .of 0x1c34da5e0ed8 then .send 16
  else if dstMac = .of 0x1c34da5e0ed4 then .send 20
  else if dstMac = .of 0x08c0ebb6cd5d then .send 32
  else if dstMac = .of 0x08c0ebb6e805 then .send 36
  else if dstMac = .of 0x08c0ebb6c5ad then .send 24
  else if dstMac = .of 0x08c0ebb6e7e5 then .send 28
  else if dstMac = .of 0xffffffffffff then .multicast 1
  else .drop

/-! ## Registers -/

/-- The registers of `Ingress` and of the controls that it applies. -/
structure IngressRegisters where
  regBeIdx : Register (BitVec 16) (BitVec 16)
  backendMacHi32 : Register (BitVec 16) (BitVec 32)
  backendMacLo16 : Register (BitVec 16) (BitVec 16)
  backendIp : Register (BitVec 16) (BitVec 32)
  backendPort : Register (BitVec 16) (BitVec 16)
  requestClientIp0 : Register (BitVec 16) (BitVec 32)
  requestClientPort0 : Register (BitVec 16) (BitVec 16)
  replyClientIp0 : Register (BitVec 16) (BitVec 32)
  replyClientPort0 : Register (BitVec 16) (BitVec 16)
  ownerMacHi320 : Register (BitVec 16) (BitVec 32)
  ownerMacLo160 : Register (BitVec 16) (BitVec 16)
  ownerIp0 : Register (BitVec 16) (BitVec 32)
  ownerPort0 : Register (BitVec 16) (BitVec 16)

/-- The registers begin with zeros, except for the backends, which the control plane sets. -/
def IngressRegisters.new (backends : BitVec 16 → ServerAddress) : IngressRegisters where
  regBeIdx _ := 0
  backendMacHi32 index := (backends index).mac.hi32
  backendMacLo16 index := (backends index).mac.lo16
  backendIp index := (backends index).ip
  backendPort index := (backends index).port
  requestClientIp0 _ := 0
  requestClientPort0 _ := 0
  replyClientIp0 _ := 0
  replyClientPort0 _ := 0
  ownerMacHi320 _ := 0
  ownerMacLo160 _ := 0
  ownerIp0 _ := 0
  ownerPort0 _ := 0

/-- `get_be_idx`: round robin over sixteen entries. -/
def getBeIdx : RegisterAction (BitVec 16) (BitVec 16) := fun val =>
  (if val = 16 - 1 then 0 else val + 1, val)

/-- The metadata that the tables select by, with the addresses of the packet's client and of
the server to be written. -/
structure IngressMetadata where
  client : ClientAddress
  owner : ServerAddress
  flag : BitVec 8
  initialDistribution : Bool
  result00 : Bool
  result01 : Bool
  result02 : Bool
  result03 : Bool
  deriving DecidableEq, Repr

/-- The actions that `MigrationRequestIdentifier32b`, `MigrationRequestIdentifier16b`,
`MigrationReplyIdentifier32b` and `MigrationReplyIdentifier16b` select: a first packet
writes the client, others compare, without a flag a field of the packet and with one the
client of the message. -/
def identifier {width : Nat} (meta_ : IngressMetadata) (client field : BitVec width) :
    RegisterAction (BitVec width) Bool := fun registerValue =>
  if meta_.initialDistribution then (client, true)
  else if meta_.flag = 0 then (registerValue, registerValue == field)
  else (registerValue, registerValue == client)

/-- `MigrationRequest32b0` and `MigrationRequest16b0`: the register and the out-parameter
after the action that is selected. -/
def migrationRequest {width : Nat} (reg : Register (BitVec 16) (BitVec width)) (index : BitVec 16)
    (value : BitVec width) (meta_ : IngressMetadata) (returnValue : BitVec width) :
    Register (BitVec 16) (BitVec width) × BitVec width :=
  if meta_.initialDistribution ∧ meta_.flag = 0 ∧ meta_.result00 ∧ meta_.result01 then
    ((reg.execute (fun _ => (value, ())) index).1, returnValue)
  else if ¬ meta_.initialDistribution ∧ meta_.flag = PREPARE_MIG_ACK_FLAG ∧ meta_.result00 ∧
      meta_.result01 then
    ((reg.execute (fun _ => (value, ())) index).1, returnValue)
  else if ¬ meta_.initialDistribution ∧ meta_.flag = 0 ∧ meta_.result00 ∧ meta_.result01 then
    reg.execute (fun registerValue => (registerValue, registerValue)) index
  else (reg, returnValue)

/-! ## The block -/

/-- What a packet leaves behind. -/
structure IngressOutcome where
  registers : IngressRegisters
  packet : IngressPacket
  forwarding : Forwarding

/-- A packet on its way through the block, with its metadata and the two slots. -/
structure IngressStage where
  registers : IngressRegisters
  packet : IngressPacket
  ipv4 : IngressIpv4
  meta_ : IngressMetadata
  hash1 : BitVec 16
  hash2 : BitVec 16

namespace IngressIpv4

/-- `hdr.tcp.src_port`, also where there is no TCP header. -/
def tcpSrcPort (ipv4 : IngressIpv4) (unset : Unset) : BitVec 16 :=
  match ipv4.payload with
  | .tcp hdr => hdr.srcPort
  | _ => unset.tcpSrcPort

/-- `hdr.tcp.dst_port`, also where there is no TCP header. -/
def tcpDstPort (ipv4 : IngressIpv4) (unset : Unset) : BitVec 16 :=
  match ipv4.payload with
  | .tcp hdr => hdr.dstPort
  | _ => unset.tcpDstPort

/-- Assign `hdr.tcp.dst_port`; without a TCP header this has no effect. -/
def setTcpDstPort (ipv4 : IngressIpv4) (dstPort : BitVec 16) : IngressIpv4 :=
  match ipv4.payload with
  | .tcp hdr => { ipv4 with payload := .tcp { hdr with dstPort } }
  | _ => ipv4

/-- Assign `hdr.tcp.src_port`; without a TCP header this has no effect. -/
def setTcpSrcPort (ipv4 : IngressIpv4) (srcPort : BitVec 16) : IngressIpv4 :=
  match ipv4.payload with
  | .tcp hdr => { ipv4 with payload := .tcp { hdr with srcPort } }
  | _ => ipv4

/-- Assign zero to `hdr.udp.checksum`; the UDP header is kept in front of a message only. -/
def clearUdpChecksum (ipv4 : IngressIpv4) : IngressIpv4 :=
  match ipv4.payload with
  | .tcpmig hdr => { ipv4 with payload := .tcpmig { hdr with udpChecksum := 0 } }
  | _ => ipv4

end IngressIpv4

namespace IngressRegisters

variable (hash : BitVec 32 → BitVec 16 → BitVec 16)

/-- The entry of a backend. -/
def backend (registers : IngressRegisters) (index : BitVec 16) : ServerAddress where
  mac := ⟨registers.backendMacHi32 index, registers.backendMacLo16 index⟩
  ip := registers.backendIp index
  port := registers.backendPort index

/-- The metadata that the parser leaves. -/
def parsed (client : ClientAddress) (flag : BitVec 8) : IngressMetadata :=
  ⟨client, ⟨⟨0, 0⟩, 0, 0⟩, flag, false, false, false, false, false⟩

/-- The branches on the transport header: the slots, and for a SYN to the front end the
choice of a backend, which the packet is sent to. -/
def select (registers : IngressRegisters) (packet : IngressPacket) (ipv4 : IngressIpv4) :
    IngressStage :=
  match ipv4.payload with
  | .tcp tcp =>
    let hash1 := hash ipv4.srcIp tcp.srcPort
    let hash2 := hash ipv4.dstIp tcp.dstPort
    let meta_ := parsed ⟨0, 0⟩ 0
    if tcp.flags = SYN_FLAGS ∧ ipv4.dstIp = FRONTEND.ip then
      let (regBeIdx, backendIdx) := registers.regBeIdx.execute getBeIdx 0
      let registers := { registers with regBeIdx }
      let owner := registers.backend backendIdx
      { registers
        packet := { packet with dstMac := owner.mac }
        ipv4 := { ipv4 with dstIp := owner.ip, payload := .tcp { tcp with dstPort := owner.port } }
        meta_ := { meta_ with
          client := ⟨ipv4.srcIp, tcp.srcPort⟩, owner, initialDistribution := true }
        hash1
        hash2 := hash1 }
    else { registers, packet, ipv4, meta_, hash1, hash2 }
  | .tcpmig tcpmig =>
    let hash1 := hash tcpmig.client.ip tcpmig.client.port
    { registers
      packet := { packet with dstMac := BE_MAC }
      ipv4 := { ipv4 with dstIp := BE_IP, payload := .tcpmig { tcpmig with udpChecksum := 0 } }
      meta_ := parsed tcpmig.client tcpmig.flag
      hash1
      hash2 := hash1 }
  | .other =>
    { registers, packet, ipv4
      meta_ := parsed ⟨0, 0⟩ 0
      hash1 := packet.unset.hash1
      hash2 := packet.unset.hash2 }

end IngressRegisters

namespace IngressStage

/-- A message whose first flag bit is set names its sender as the server. -/
def chown (stage : IngressStage) : IngressStage :=
  match stage.ipv4.payload with
  | .tcpmig tcpmig =>
    if stage.meta_.flag[0] = true then
      { stage with meta_ := { stage.meta_ with
        owner := ⟨stage.packet.srcMac, stage.ipv4.srcIp, tcpmig.udpSrcPort⟩ } }
    else stage
  | _ => stage

/-- The four identifiers: `request_client_ip_0` and `request_client_port_0` on the first
slot, `reply_client_ip_0` and `reply_client_port_0` on the second. -/
def identify (stage : IngressStage) : IngressStage :=
  let { registers, packet, ipv4, meta_, hash1, hash2 } := stage
  let (requestClientIp0, result00) := registers.requestClientIp0.execute
    (identifier meta_ meta_.client.ip ipv4.srcIp) hash1
  let (requestClientPort0, result01) := registers.requestClientPort0.execute
    (identifier meta_ meta_.client.port (ipv4.tcpSrcPort packet.unset)) hash1
  let (replyClientIp0, result02) := registers.replyClientIp0.execute
    (identifier meta_ meta_.client.ip ipv4.dstIp) hash2
  let (replyClientPort0, result03) := registers.replyClientPort0.execute
    (identifier meta_ meta_.client.port (ipv4.tcpDstPort packet.unset)) hash2
  { stage with
    registers := { registers with
      requestClientIp0, requestClientPort0, replyClientIp0, replyClientPort0 }
    meta_ := { meta_ with result00, result01, result02, result03 } }

/-- The four parts of the server: `owner_mac_hi32_0`, `owner_mac_lo16_0`, `owner_ip_0` and
`owner_port_0`, whose out-parameters are the destination of the packet. -/
def own (stage : IngressStage) : IngressStage :=
  let { registers, packet, ipv4, meta_, hash1, .. } := stage
  let (ownerMacHi320, hi32) := migrationRequest registers.ownerMacHi320 hash1
    meta_.owner.mac.hi32 meta_ packet.dstMac.hi32
  let (ownerMacLo160, lo16) := migrationRequest registers.ownerMacLo160 hash1
    meta_.owner.mac.lo16 meta_ packet.dstMac.lo16
  let (ownerIp0, dstIp) := migrationRequest registers.ownerIp0 hash1
    meta_.owner.ip meta_ ipv4.dstIp
  let (ownerPort0, dstPort) := migrationRequest registers.ownerPort0 hash1
    meta_.owner.port meta_ (ipv4.tcpDstPort packet.unset)
  { stage with
    registers := { registers with ownerMacHi320, ownerMacLo160, ownerIp0, ownerPort0 }
    packet := { packet with dstMac := ⟨hi32, lo16⟩ }
    ipv4 := { ipv4 with dstIp }.setTcpDstPort dstPort }

/-- `tbl_reply_rewrite`. -/
def replyRewrite (stage : IngressStage) : IngressStage :=
  let { packet, ipv4, meta_, .. } := stage
  if ¬ meta_.initialDistribution ∧ meta_.flag = 0 ∧ meta_.result02 ∧ meta_.result03 then
    { stage with
      packet := { packet with srcMac := FRONTEND.mac }
      ipv4 := { ipv4 with srcIp := FRONTEND.ip }.setTcpSrcPort FRONTEND.port }
  else stage

/-- The packet as it leaves the tables. -/
def finish (stage : IngressStage) : IngressOutcome where
  registers := stage.registers
  packet := { stage.packet with ipv4 := some stage.ipv4 }
  forwarding := l2Forwarding stage.packet.dstMac

end IngressStage

/-- `Ingress`, the `apply` block. -/
def IngressRegisters.apply (hash : BitVec 32 → BitVec 16 → BitVec 16)
    (registers : IngressRegisters) (packet : IngressPacket) : IngressOutcome :=
  match packet.pktgen with
  | some srcMac =>
    { registers
      packet := { packet with
        pktgen := none
        srcMac
        dstMac := .of 0xffffffffffff
        ipv4 := packet.ipv4.map IngressIpv4.clearUdpChecksum }
      forwarding := .send PIPE_0_RECIRC }
  | none =>
    if packet.ingressPort = PIPE_0_RECIRC then
      { registers, packet, forwarding := .multicast 2 }
    else match packet.ipv4 with
    | some ipv4 =>
      (registers.select hash packet ipv4).chown.identify.own.replyRewrite.finish
    | none => { registers, packet, forwarding := l2Forwarding packet.dstMac }

end Capybara
