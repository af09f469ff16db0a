import Capybara.Lib.Runs
import Capybara.Switch.Ingress

/-!
# The ownership table of the switch

The record of a client is spread over eight registers of its slot, each with a control of
its own. They are selected by the same keys: a SYN to the front end writes them all, an
answer to the preparation of a migration writes the server if the client is found, and
everything else writes none. So a slot holds the client of the last SYN that was hashed to
it, and the server which that client was last given.

A register that has not been written holds zeros, and a slot with zeros looks like the
record of the client 0.0.0.0:0. This client is therefore an exception.
-/

namespace Capybara

open Registers Runs

/-! ## The stages, one action at a time -/

namespace IngressIpv4

variable (ipv4 : IngressIpv4)

/-- Writing the port that is read changes nothing, also if there is no TCP header to write it
in. -/
theorem setTcpDstPort_self (unset : Unset) : ipv4.setTcpDstPort (ipv4.tcpDstPort unset) = ipv4 := by
  obtain ⟨srcIp, dstIp, payload⟩ := ipv4
  cases payload with
  | tcp hdr => rfl
  | tcpmig hdr => rfl
  | other => rfl

end IngressIpv4

namespace IngressStage

variable (stage : IngressStage)

/-- The first packet of a connection writes its client into both pairs of identifiers. -/
theorem identify_first (first : stage.meta_.initialDistribution = true) :
    stage.identify = { stage with
      registers := { stage.registers with
        requestClientIp0 := Function.update stage.registers.requestClientIp0 stage.hash1
          stage.meta_.client.ip
        requestClientPort0 := Function.update stage.registers.requestClientPort0 stage.hash1
          stage.meta_.client.port
        replyClientIp0 := Function.update stage.registers.replyClientIp0 stage.hash2
          stage.meta_.client.ip
        replyClientPort0 := Function.update stage.registers.replyClientPort0 stage.hash2
          stage.meta_.client.port }
      meta_ := { stage.meta_ with
        result00 := true, result01 := true, result02 := true, result03 := true } } := by
  unfold identify identifier Register.execute
  simp only [first, if_true]

/-- A later packet compares and writes nothing. -/
theorem identifier_later {width : Nat} {meta_ : IngressMetadata}
    (later : meta_.initialDistribution = false) (client field : BitVec width) :
    identifier meta_ client field = fun registerValue =>
      (registerValue, registerValue == if meta_.flag = 0 then field else client) := by
  funext registerValue
  unfold identifier
  simp only [later, Bool.false_eq_true, if_false]
  split
  · rfl
  · rfl

/-- A packet that does not begin a connection is identified by comparing its client with the
record of its slot. -/
theorem identify_later (later : stage.meta_.initialDistribution = false) :
    stage.identify = { stage with meta_ := { stage.meta_ with
      result00 := stage.registers.requestClientIp0 stage.hash1 ==
        if stage.meta_.flag = 0 then stage.ipv4.srcIp else stage.meta_.client.ip
      result01 := stage.registers.requestClientPort0 stage.hash1 ==
        if stage.meta_.flag = 0 then stage.ipv4.tcpSrcPort stage.packet.unset
        else stage.meta_.client.port
      result02 := stage.registers.replyClientIp0 stage.hash2 ==
        if stage.meta_.flag = 0 then stage.ipv4.dstIp else stage.meta_.client.ip
      result03 := stage.registers.replyClientPort0 stage.hash2 ==
        if stage.meta_.flag = 0 then stage.ipv4.tcpDstPort stage.packet.unset
        else stage.meta_.client.port } } := by
  unfold identify
  simp only [identifier_later later, Register.execute_keep]

/-- With a flag, the client of the message is what is compared. -/
theorem identify_flagged (later : stage.meta_.initialDistribution = false)
    (flagged : stage.meta_.flag ≠ 0) :
    stage.identify = { stage with meta_ := { stage.meta_ with
      result00 := stage.registers.requestClientIp0 stage.hash1 == stage.meta_.client.ip
      result01 := stage.registers.requestClientPort0 stage.hash1 == stage.meta_.client.port
      result02 := stage.registers.replyClientIp0 stage.hash2 == stage.meta_.client.ip
      result03 := stage.registers.replyClientPort0 stage.hash2 == stage.meta_.client.port } } := by
  rw [identify_later stage later]
  simp only [if_neg flagged]

/-- The selected action writes the server. -/
def Writes (meta_ : IngressMetadata) : Prop :=
  (meta_.initialDistribution = true ∧ meta_.flag = 0 ∨
    meta_.initialDistribution = false ∧ meta_.flag = PREPARE_MIG_ACK_FLAG) ∧
  meta_.result00 = true ∧ meta_.result01 = true

/-- The selected action reads the server. -/
def Reads (meta_ : IngressMetadata) : Prop :=
  meta_.initialDistribution = false ∧ meta_.flag = 0 ∧
    meta_.result00 = true ∧ meta_.result01 = true

/-- A write puts its value in the record of the slot. -/
theorem migrationRequest_write {width : Nat} {meta_ : IngressMetadata} (writes : Writes meta_)
    (reg : Register (BitVec 16) (BitVec width)) (index : BitVec 16)
    (value returnValue : BitVec width) :
    migrationRequest reg index value meta_ returnValue =
      (Function.update reg index value, returnValue) := by
  obtain ⟨⟨first, flag⟩ | ⟨later, flag⟩, result00, result01⟩ := writes
  · unfold migrationRequest
    rw [if_pos ⟨first, flag, result00, result01⟩]
    rfl
  · unfold migrationRequest
    have notFirst : ¬ meta_.initialDistribution = true := Bool.eq_false_iff.mp later
    rw [if_neg fun condition => notFirst condition.1, if_pos ⟨notFirst, flag, result00, result01⟩]
    rfl

/-- A read takes the value out of the record of the slot and leaves it there. -/
theorem migrationRequest_read {width : Nat} {meta_ : IngressMetadata} (reads : Reads meta_)
    (reg : Register (BitVec 16) (BitVec width)) (index : BitVec 16)
    (value returnValue : BitVec width) :
    migrationRequest reg index value meta_ returnValue = (reg, reg index) := by
  obtain ⟨later, flag, result00, result01⟩ := reads
  have notFirst : ¬ meta_.initialDistribution = true := Bool.eq_false_iff.mp later
  have notFlag : ¬ meta_.flag = PREPARE_MIG_ACK_FLAG := by
    rw [flag]
    decide
  unfold migrationRequest
  rw [if_neg fun condition => notFirst condition.1, if_neg fun condition => notFlag condition.2.1,
    if_pos ⟨notFirst, flag, result00, result01⟩, Register.execute_keep]

/-- Without an action the record stays, and the value is the one that was given. -/
theorem migrationRequest_noAction {width : Nat} {meta_ : IngressMetadata}
    (noWrite : ¬ Writes meta_) (noRead : ¬ Reads meta_)
    (reg : Register (BitVec 16) (BitVec width)) (index : BitVec 16)
    (value returnValue : BitVec width) :
    migrationRequest reg index value meta_ returnValue = (reg, returnValue) := by
  unfold migrationRequest
  rw [if_neg, if_neg, if_neg]
  · rintro ⟨notFirst, flag, result00, result01⟩
    exact noRead ⟨Bool.eq_false_iff.mpr notFirst, flag, result00, result01⟩
  · rintro ⟨notFirst, flag, result00, result01⟩
    exact noWrite ⟨.inr ⟨Bool.eq_false_iff.mpr notFirst, flag⟩, result00, result01⟩
  · rintro ⟨first, flag, result00, result01⟩
    exact noWrite ⟨.inl ⟨first, flag⟩, result00, result01⟩

/-- A stage that writes makes the server of the packet the owner of its slot. -/
theorem own_write (writes : Writes stage.meta_) :
    stage.own = { stage with registers := { stage.registers with
      ownerMacHi320 := Function.update stage.registers.ownerMacHi320 stage.hash1
        stage.meta_.owner.mac.hi32
      ownerMacLo160 := Function.update stage.registers.ownerMacLo160 stage.hash1
        stage.meta_.owner.mac.lo16
      ownerIp0 := Function.update stage.registers.ownerIp0 stage.hash1 stage.meta_.owner.ip
      ownerPort0 := Function.update stage.registers.ownerPort0 stage.hash1
        stage.meta_.owner.port } } := by
  unfold own
  simp only [migrationRequest_write writes]
  exact congrArg (fun ipv4 => ({ stage with registers := _, ipv4 } : IngressStage))
    (stage.ipv4.setTcpDstPort_self _)

/-- A stage that reads sends the packet to the owner of its slot. -/
theorem own_read (reads : Reads stage.meta_) :
    stage.own = { stage with
      packet := { stage.packet with dstMac := ⟨stage.registers.ownerMacHi320 stage.hash1,
        stage.registers.ownerMacLo160 stage.hash1⟩ }
      ipv4 := { stage.ipv4 with dstIp := stage.registers.ownerIp0 stage.hash1 }.setTcpDstPort
        (stage.registers.ownerPort0 stage.hash1) } := by
  unfold own
  simp only [migrationRequest_read reads]

/-- A stage with neither leaves registers and packet as they are. -/
theorem own_noAction (noWrite : ¬ Writes stage.meta_) (noRead : ¬ Reads stage.meta_) :
    stage.own = stage := by
  unfold own
  simp only [migrationRequest_noAction noWrite noRead]
  exact congrArg (fun ipv4 => ({ stage with ipv4 } : IngressStage))
    (stage.ipv4.setTcpDstPort_self _)

end IngressStage

/-! ## Slots and roles -/

/-- What a packet is to the ownership table. -/
inductive IngressRole where
  | syn (client : ClientAddress)
  | segment (client : ClientAddress)
  | chown (client : ClientAddress) (server : ServerAddress)
  | other
  deriving DecidableEq, Repr

/-- The role of a packet: a SYN to the front end, any other TCP segment, an answer to the
preparation of a migration, or something else. -/
def IngressPacket.role (packet : IngressPacket) : IngressRole :=
  match packet.pktgen with
  | some _ => .other
  | none =>
    if packet.ingressPort = PIPE_0_RECIRC then .other
    else match packet.ipv4 with
    | none => .other
    | some ipv4 =>
      match ipv4.payload with
      | .tcp tcp =>
        if tcp.flags = SYN_FLAGS ∧ ipv4.dstIp = FRONTEND.ip then .syn ⟨ipv4.srcIp, tcp.srcPort⟩
        else .segment ⟨ipv4.srcIp, tcp.srcPort⟩
      | .tcpmig tcpmig =>
        if tcpmig.flag = PREPARE_MIG_ACK_FLAG then
          .chown tcpmig.client ⟨packet.srcMac, ipv4.srcIp, tcpmig.udpSrcPort⟩
        else .other
      | .other => .other

/-- A packet that goes through the tables, with its IPv4 header. -/
structure IngressPacket.Routed (packet : IngressPacket) (ipv4 : IngressIpv4) : Prop where
  noPktgen : packet.pktgen = none
  elsewhere : packet.ingressPort ≠ PIPE_0_RECIRC
  found : packet.ipv4 = some ipv4

/-- The packets of each role. -/
inductive IngressPacket.Classified (packet : IngressPacket) : IngressRole → Prop where
  | aside (unrouted : ∀ ipv4, ¬ packet.Routed ipv4) : Classified packet .other
  | rest (ipv4 : IngressIpv4) (routed : packet.Routed ipv4) (payload : ipv4.payload = .other) :
      Classified packet .other
  | message (ipv4 : IngressIpv4) (tcpmig : IngressTcpmig) (routed : packet.Routed ipv4)
      (payload : ipv4.payload = .tcpmig tcpmig) (flag : tcpmig.flag ≠ PREPARE_MIG_ACK_FLAG) :
      Classified packet .other
  | chown (ipv4 : IngressIpv4) (tcpmig : IngressTcpmig) (routed : packet.Routed ipv4)
      (payload : ipv4.payload = .tcpmig tcpmig) (flag : tcpmig.flag = PREPARE_MIG_ACK_FLAG) :
      Classified packet (.chown tcpmig.client ⟨packet.srcMac, ipv4.srcIp, tcpmig.udpSrcPort⟩)
  | syn (ipv4 : IngressIpv4) (tcp : IngressTcp) (routed : packet.Routed ipv4)
      (payload : ipv4.payload = .tcp tcp)
      (isSyn : tcp.flags = SYN_FLAGS ∧ ipv4.dstIp = FRONTEND.ip) :
      Classified packet (.syn ⟨ipv4.srcIp, tcp.srcPort⟩)
  | segment (ipv4 : IngressIpv4) (tcp : IngressTcp) (routed : packet.Routed ipv4)
      (payload : ipv4.payload = .tcp tcp)
      (noSyn : ¬ (tcp.flags = SYN_FLAGS ∧ ipv4.dstIp = FRONTEND.ip)) :
      Classified packet (.segment ⟨ipv4.srcIp, tcp.srcPort⟩)

/-- Every packet has exactly the role that its headers say. -/
theorem IngressPacket.classified (packet : IngressPacket) : packet.Classified packet.role := by
  unfold role
  split
  · rename_i srcMac pktgen
    refine .aside fun ipv4 routed => ?_
    cases pktgen.symm.trans routed.noPktgen
  rename_i noPktgen
  split
  · rename_i recirculated
    exact .aside fun ipv4 routed => routed.elsewhere recirculated
  rename_i elsewhere
  split
  · rename_i noIpv4
    refine .aside fun ipv4 routed => ?_
    cases noIpv4.symm.trans routed.found
  rename_i ipv4 found
  have routed : packet.Routed ipv4 := ⟨noPktgen, elsewhere, found⟩
  split
  · rename_i tcp payload
    split
    · rename_i isSyn
      exact .syn ipv4 tcp routed payload isSyn
    · rename_i noSyn
      exact .segment ipv4 tcp routed payload noSyn
  · rename_i tcpmig payload
    split
    · rename_i flag
      exact .chown ipv4 tcpmig routed payload flag
    · rename_i flag
      exact .message ipv4 tcpmig routed payload flag
  · rename_i payload
    exact .rest ipv4 routed payload

/-- The server that a TCP segment goes to. -/
def IngressPacket.destination (packet : IngressPacket) : Option ServerAddress :=
  match packet.ipv4 with
  | some ipv4 =>
    match ipv4.payload with
    | .tcp tcp => some ⟨packet.dstMac, ipv4.dstIp, tcp.dstPort⟩
    | _ => none
  | none => none

namespace IngressRegisters

variable {hash : BitVec 32 → BitVec 16 → BitVec 16} {registers : IngressRegisters}
  {packet : IngressPacket}

/-- The client in a slot, as requests are compared with it. -/
def clientAt (registers : IngressRegisters) (slot : BitVec 16) : ClientAddress :=
  ⟨registers.requestClientIp0 slot, registers.requestClientPort0 slot⟩

/-- The client in a slot, as replies are compared with it. -/
def replyClientAt (registers : IngressRegisters) (slot : BitVec 16) : ClientAddress :=
  ⟨registers.replyClientIp0 slot, registers.replyClientPort0 slot⟩

/-- The server in a slot. -/
def ownerAt (registers : IngressRegisters) (slot : BitVec 16) : ServerAddress :=
  ⟨⟨registers.ownerMacHi320 slot, registers.ownerMacLo160 slot⟩, registers.ownerIp0 slot,
    registers.ownerPort0 slot⟩

end IngressRegisters

namespace IngressStage

variable (stage : IngressStage)

/-- The rewriting of replies only reads the registers. -/
theorem replyRewrite_registers : stage.replyRewrite.registers = stage.registers := by
  unfold replyRewrite
  dsimp only
  split
  · rfl
  · rfl

/-- The rewriting of replies changes the source of a packet and not its destination. -/
theorem replyRewrite_destination :
    stage.replyRewrite.finish.packet.destination = stage.finish.packet.destination := by
  unfold replyRewrite
  dsimp only
  split
  · obtain ⟨registers, packet, ⟨srcIp, dstIp, payload⟩, meta_, hash1, hash2⟩ := stage
    cases payload with
    | tcp hdr => rfl
    | tcpmig hdr => rfl
    | other => rfl
  · rfl

/-- A segment never changes an owner. -/
theorem chown_tcp {hdr : IngressTcp} (tcp : stage.ipv4.payload = .tcp hdr) :
    stage.chown = stage := by
  unfold chown
  rw [tcp]

/-- Only the acknowledgement of a prepared migration changes an owner: its sender becomes the
owner of the client that it names. -/
theorem chown_message {hdr : IngressTcpmig} (tcpmig : stage.ipv4.payload = .tcpmig hdr)
    (flag : stage.meta_.flag = PREPARE_MIG_ACK_FLAG) :
    stage.chown = { stage with meta_ := { stage.meta_ with
      owner := ⟨stage.packet.srcMac, stage.ipv4.srcIp, hdr.udpSrcPort⟩ } } := by
  have names : stage.meta_.flag[0] = true := by
    rw [flag]
    decide
  unfold chown
  rw [tcpmig]
  exact if_pos names

/-- Without the action that writes, the registers of the server stay as they are. -/
theorem own_registers (noWrite : ¬ Writes stage.meta_) : stage.own.registers = stage.registers := by
  by_cases reads : Reads stage.meta_
  · rw [own_read stage reads]
  · rw [own_noAction stage noWrite reads]

end IngressStage

namespace IngressRegisters

open IngressStage

variable {hash : BitVec 32 → BitVec 16 → BitVec 16} {registers : IngressRegisters}
  {packet : IngressPacket}

/-- A packet for the service passes the tables one after the other. -/
theorem apply_routed {ipv4 : IngressIpv4} (routed : packet.Routed ipv4) :
    registers.apply hash packet =
      (registers.select hash packet ipv4).chown.identify.own.replyRewrite.finish := by
  unfold apply
  rw [routed.noPktgen]
  dsimp only
  rw [if_neg routed.elsewhere, routed.found]

/-- Any other packet leaves the registers alone. -/
theorem apply_unrouted (unrouted : ∀ ipv4, ¬ packet.Routed ipv4) :
    (registers.apply hash packet).registers = registers := by
  unfold apply
  split
  · rfl
  · rename_i noPktgen
    split
    · rfl
    · rename_i elsewhere
      split
      · rename_i ipv4 found
        exact absurd ⟨noPktgen, elsewhere, found⟩ (unrouted ipv4)
      · rfl

/-- A later packet that does not make the tables write leaves the registers as they are. -/
theorem keeps_registers {stage : IngressStage} (kept : stage.registers = registers)
    (later : stage.meta_.initialDistribution = false)
    (flag : stage.meta_.flag ≠ PREPARE_MIG_ACK_FLAG) :
    stage.identify.own.replyRewrite.finish.registers = registers := by
  change stage.identify.own.replyRewrite.registers = registers
  rw [replyRewrite_registers, identify_later stage later, own_registers]
  · exact kept
  · rintro ⟨⟨first, -⟩ | ⟨-, flag'⟩, -, -⟩
    · exact absurd first (Bool.eq_false_iff.mp later)
    · exact flag flag'

/-- The stage of a segment that is not a SYN, after the identifiers. -/
theorem select_segment {ipv4 : IngressIpv4} {tcp : IngressTcp} (payload : ipv4.payload = .tcp tcp)
    (noSyn : ¬ (tcp.flags = SYN_FLAGS ∧ ipv4.dstIp = FRONTEND.ip)) :
    registers.select hash packet ipv4 = {
      registers, packet, ipv4
      meta_ := parsed ⟨0, 0⟩ 0
      hash1 := hash ipv4.srcIp tcp.srcPort
      hash2 := hash ipv4.dstIp tcp.dstPort } := by
  unfold select
  rw [payload]
  exact if_neg noSyn

/-- The stage of a migration message. -/
theorem select_tcpmig {ipv4 : IngressIpv4} {tcpmig : IngressTcpmig}
    (payload : ipv4.payload = .tcpmig tcpmig) :
    registers.select hash packet ipv4 = {
      registers
      packet := { packet with dstMac := BE_MAC }
      ipv4 := { ipv4 with dstIp := BE_IP, payload := .tcpmig { tcpmig with udpChecksum := 0 } }
      meta_ := parsed tcpmig.client tcpmig.flag
      hash1 := hash tcpmig.client.ip tcpmig.client.port
      hash2 := hash tcpmig.client.ip tcpmig.client.port } := by
  unfold select
  rw [payload]

/-- The stage of a SYN: some backend has been chosen, and the packet is sent to it. -/
theorem select_syn {ipv4 : IngressIpv4} {tcp : IngressTcp} (payload : ipv4.payload = .tcp tcp)
    (isSyn : tcp.flags = SYN_FLAGS ∧ ipv4.dstIp = FRONTEND.ip) :
    ∃ regBeIdx server, registers.select hash packet ipv4 = {
      registers := { registers with regBeIdx }
      packet := { packet with dstMac := server.mac }
      ipv4 := { ipv4 with dstIp := server.ip, payload := .tcp { tcp with dstPort := server.port } }
      meta_ := ⟨⟨ipv4.srcIp, tcp.srcPort⟩, server, 0, true, false, false, false, false⟩
      hash1 := hash ipv4.srcIp tcp.srcPort
      hash2 := hash ipv4.srcIp tcp.srcPort } := by
  unfold select
  rw [payload]
  dsimp only
  rw [if_pos isSyn]
  exact ⟨_, _, rfl⟩

/-- The two registers of a client, written together, are one record. -/
theorem clientAt_update (slot : BitVec 16) (client : ClientAddress) (other : BitVec 16) :
    (⟨Function.update registers.requestClientIp0 slot client.ip other,
      Function.update registers.requestClientPort0 slot client.port other⟩ : ClientAddress) =
      Function.update registers.clientAt slot client other := by
  simp only [Function.update_apply]
  split
  · rfl
  · rfl

/-- The two registers of the client of a reply, written together, are one record. -/
theorem replyClientAt_update (slot : BitVec 16) (client : ClientAddress) (other : BitVec 16) :
    (⟨Function.update registers.replyClientIp0 slot client.ip other,
      Function.update registers.replyClientPort0 slot client.port other⟩ : ClientAddress) =
      Function.update registers.replyClientAt slot client other := by
  simp only [Function.update_apply]
  split
  · rfl
  · rfl

/-- The four registers of an owner, written together, are one record. -/
theorem ownerAt_update (slot : BitVec 16) (server : ServerAddress) (other : BitVec 16) :
    (⟨⟨Function.update registers.ownerMacHi320 slot server.mac.hi32 other,
        Function.update registers.ownerMacLo160 slot server.mac.lo16 other⟩,
      Function.update registers.ownerIp0 slot server.ip other,
      Function.update registers.ownerPort0 slot server.port other⟩ : ServerAddress) =
      Function.update registers.ownerAt slot server other := by
  simp only [Function.update_apply]
  split
  · rfl
  · rfl

/-- A SYN makes its client and the server that it is sent to the record of the slot. -/
theorem apply_syn {client : ClientAddress} (syn : packet.role = .syn client) :
    ∃ server, (registers.apply hash packet).packet.destination = some server ∧
      (registers.apply hash packet).registers.clientAt =
        Function.update registers.clientAt (hash client.ip client.port) client ∧
      (registers.apply hash packet).registers.replyClientAt =
        Function.update registers.replyClientAt (hash client.ip client.port) client ∧
      (registers.apply hash packet).registers.ownerAt =
        Function.update registers.ownerAt (hash client.ip client.port) server := by
  have classified := packet.classified
  rw [syn] at classified
  cases classified with
  | syn ipv4 tcp routed payload isSyn =>
    obtain ⟨regBeIdx, server, selected⟩ := @select_syn hash registers packet _ _ payload
      isSyn
    rw [apply_routed routed, selected, chown_tcp _ rfl, replyRewrite_destination]
    have reply (stage : IngressStage) : stage.replyRewrite.finish.registers = stage.registers :=
      stage.replyRewrite_registers
    rw [reply, identify_first _ rfl, own_write _ ⟨.inl ⟨rfl, rfl⟩, rfl, rfl⟩]
    exact ⟨server, rfl, funext (clientAt_update _ _), funext (replyClientAt_update _ _),
      funext (ownerAt_update _ _)⟩

/-- A segment goes to the server of its slot if its client is the one there, and leaves the
registers as they are. -/
theorem apply_segment {client : ClientAddress} (segment : packet.role = .segment client) :
    (registers.apply hash packet).registers = registers ∧
      (registers.apply hash packet).packet.destination =
        if registers.clientAt (hash client.ip client.port) = client then
          some (registers.ownerAt (hash client.ip client.port))
        else packet.destination := by
  have classified := packet.classified
  rw [segment] at classified
  cases classified with
  | segment ipv4 tcp routed payload noSyn =>
    rw [apply_routed routed, select_segment payload noSyn, chown_tcp _ payload]
    have noFlag : (0 : BitVec 8) ≠ PREPARE_MIG_ACK_FLAG := by decide
    refine ⟨keeps_registers rfl rfl noFlag, ?_⟩
    have port : ipv4.tcpSrcPort packet.unset = tcp.srcPort := by
      rw [IngressIpv4.tcpSrcPort, payload]
    rw [replyRewrite_destination, identify_later _ rfl]
    by_cases same :
      registers.clientAt (hash ipv4.srcIp tcp.srcPort) = ⟨ipv4.srcIp, tcp.srcPort⟩
    · have matchesIp : registers.requestClientIp0 (hash ipv4.srcIp tcp.srcPort) = ipv4.srcIp :=
        congrArg ClientAddress.ip same
      have matchesPort : registers.requestClientPort0 (hash ipv4.srcIp tcp.srcPort) =
          ipv4.tcpSrcPort packet.unset := (congrArg ClientAddress.port same).trans port.symm
      rw [if_pos same, own_read _ ⟨rfl, rfl, beq_iff_eq.mpr matchesIp, beq_iff_eq.mpr matchesPort⟩]
      obtain ⟨srcIp, dstIp, payload⟩ := ipv4
      cases payload
      rfl
    · have noRead (meta_ : IngressMetadata) (result00 : meta_.result00 =
            (registers.requestClientIp0 (hash ipv4.srcIp tcp.srcPort) == ipv4.srcIp))
          (result01 : meta_.result01 = (registers.requestClientPort0
            (hash ipv4.srcIp tcp.srcPort) == ipv4.tcpSrcPort packet.unset)) : ¬ Reads meta_ := by
        rintro ⟨-, -, matchesIp, matchesPort⟩
        rw [result00, beq_iff_eq] at matchesIp
        rw [result01, beq_iff_eq, port] at matchesPort
        exact same (ClientAddress.ext_iff.mpr ⟨matchesIp, matchesPort⟩)
      rw [if_neg same, own_noAction _ ?_ (noRead _ rfl rfl)]
      · rw [IngressPacket.destination, IngressPacket.destination, routed.found]
        rfl
      · rintro ⟨⟨first, -⟩ | ⟨-, flag⟩, -⟩
        · cases first
        · exact noFlag flag

/-- The answer to the preparation of a migration makes its sender the server of the slot if
its client is the one there. -/
theorem apply_chown {client : ClientAddress} {server : ServerAddress}
    (chown : packet.role = .chown client server) :
    (registers.apply hash packet).registers.clientAt = registers.clientAt ∧
      (registers.apply hash packet).registers.replyClientAt = registers.replyClientAt ∧
      (registers.apply hash packet).registers.ownerAt =
        if registers.clientAt (hash client.ip client.port) = client then
          Function.update registers.ownerAt (hash client.ip client.port) server
        else registers.ownerAt := by
  have classified := packet.classified
  rw [chown] at classified
  cases classified with
  | chown ipv4 tcpmig routed payload flag =>
    have reply (stage : IngressStage) : stage.replyRewrite.finish.registers = stage.registers :=
      stage.replyRewrite_registers
    have flagged : ¬ tcpmig.flag = 0 := by
      rw [flag]
      decide
    rw [apply_routed routed, reply, select_tcpmig payload, chown_message _ rfl flag,
      identify_flagged _ rfl flagged]
    by_cases same : registers.clientAt (hash tcpmig.client.ip tcpmig.client.port) = tcpmig.client
    · have matchesIp : registers.requestClientIp0 (hash tcpmig.client.ip tcpmig.client.port) =
          tcpmig.client.ip := congrArg ClientAddress.ip same
      have matchesPort : registers.requestClientPort0
          (hash tcpmig.client.ip tcpmig.client.port) = tcpmig.client.port :=
        congrArg ClientAddress.port same
      rw [if_pos same, own_write _ ⟨.inr ⟨rfl, flag⟩, beq_iff_eq.mpr matchesIp,
        beq_iff_eq.mpr matchesPort⟩]
      exact ⟨rfl, rfl, funext (ownerAt_update _ _)⟩
    · rw [if_neg same]
      have kept (stage : IngressStage) (noWrite : ¬ Writes stage.meta_) :
          stage.own.registers = stage.registers := own_registers stage noWrite
      rw [kept]
      · exact ⟨rfl, rfl, rfl⟩
      · rintro ⟨-, matchesIp, matchesPort⟩
        exact same (ClientAddress.ext_iff.mpr
          ⟨beq_iff_eq.mp matchesIp, beq_iff_eq.mp matchesPort⟩)

/-- Any other packet leaves the registers as they are. -/
theorem apply_other (other : packet.role = .other) :
    (registers.apply hash packet).registers = registers := by
  have classified := packet.classified
  rw [other] at classified
  cases classified with
  | aside unrouted => exact apply_unrouted unrouted
  | rest ipv4 routed payload =>
    have selected : registers.select hash packet ipv4 = {
        registers, packet, ipv4
        meta_ := parsed ⟨0, 0⟩ 0
        hash1 := packet.unset.hash1
        hash2 := packet.unset.hash2 } := by
      unfold select
      rw [payload]
    rw [apply_routed routed, selected, chown, payload]
    exact keeps_registers rfl rfl (by decide : (0 : BitVec 8) ≠ PREPARE_MIG_ACK_FLAG)
  | message ipv4 tcpmig routed payload flag =>
    rw [apply_routed routed, select_tcpmig payload, chown]
    dsimp only
    split
    · exact keeps_registers rfl rfl flag
    · exact keeps_registers rfl rfl flag

/-! ## The record of a run -/

/-- One packet; it always gets through the block. -/
def step (hash : BitVec 32 → BitVec 16 → BitVec 16) (registers : IngressRegisters)
    (packet : IngressPacket) : Except Empty IngressRegisters :=
  .ok (registers.apply hash packet).registers

/-- A packet that has gone through the ingress. -/
abbrev Transition := Runs.Transition IngressRegisters IngressPacket

/-- The registers reached from `start`, with the packets that have gone through. -/
abbrev Run (hash : BitVec 32 → BitVec 16 → BitVec 16) (start : IngressRegisters) :
    List Transition → IngressRegisters → Prop :=
  Runs.Run (step hash) start

variable (hash) in
/-- The slot of a client. -/
def slot (client : ClientAddress) : BitVec 16 := hash client.ip client.port

variable (hash) in
/-- The client of the last SYN that was hashed to a slot. -/
def holder (index : BitVec 16) : List Transition → Option ClientAddress
  | [] => none
  | transition :: past =>
    match transition.action.role with
    | .syn client => if slot hash client = index then some client else holder index past
    | _ => holder index past

variable (hash) in
/-- The server recorded for a client: the one that its last SYN was sent to, or the sender of
the last answer to the preparation of a migration that came later and found the client in
its slot. -/
def recorded (client : ClientAddress) : List Transition → Option ServerAddress
  | [] => none
  | transition :: past =>
    match transition.action.role with
    | .syn other =>
      if other = client then (transition.source.apply hash transition.action).packet.destination
      else recorded client past
    | .chown other server =>
      if other = client ∧ holder hash (slot hash client) past = some client then some server
      else recorded client past
    | _ => recorded client past

/-- The client that a slot with zeros stands for. -/
def UNUSED_CLIENT : ClientAddress := ⟨0, 0⟩

/-- The server of a slot with zeros. -/
def UNUSED_SERVER : ServerAddress := ⟨⟨0, 0⟩, 0, 0⟩

/-! ## The slots hold the records -/

/-- A slot holds the record of its client: both pairs of identifiers name it, and the four
parts of the server are those of the server recorded for it. -/
def Records (registers : IngressRegisters) (index : BitVec 16) (client : ClientAddress)
    (server : ServerAddress) : Prop :=
  registers.clientAt index = client ∧ registers.replyClientAt index = client ∧
    registers.ownerAt index = server

variable (hash) in
/-- The registers agree with the record of a run. A slot that no SYN has been hashed to names
the unused client, and holds zeros unless it is this client's own. -/
def Owned (past : List Transition) (registers : IngressRegisters) : Prop :=
  ∀ index,
    match holder hash index past with
    | some client => slot hash client = index ∧
        ∃ server, recorded hash client past = some server ∧ registers.Records index client server
    | none => registers.clientAt index = UNUSED_CLIENT ∧
        registers.replyClientAt index = UNUSED_CLIENT ∧
        (slot hash UNUSED_CLIENT ≠ index → registers.ownerAt index = UNUSED_SERVER)

variable {past : List Transition} {target : IngressRegisters}

/-- A switch that has seen no packet owes nothing. -/
theorem Owned.new (backends : BitVec 16 → ServerAddress) :
    Owned hash [] (IngressRegisters.new backends) :=
  fun _ => ⟨rfl, rfl, fun _ => rfl⟩

/-- After a SYN its client is recorded in its slot, and the owner is the server that the SYN was
sent to. Records of clients in other slots stay. -/
theorem Owned.syn (owned : Owned hash past registers) {client : ClientAddress}
    (syn : packet.role = .syn client) :
    Owned hash (⟨registers, packet, target⟩ :: past) (registers.apply hash packet).registers := by
  obtain ⟨server, sent, clients, replyClients, owners⟩ := @apply_syn hash registers packet _ syn
  intro index
  have holderNow : holder hash index (⟨registers, packet, target⟩ :: past) =
      if slot hash client = index then some client else holder hash index past := by
    simp only [holder, syn]
  have recordedNow (other : ClientAddress) :
      recorded hash other (⟨registers, packet, target⟩ :: past) =
        if client = other then some server else recorded hash other past := by
    simp only [recorded, syn, sent]
  rw [holderNow]
  by_cases same : slot hash client = index
  · rw [if_pos same]
    refine ⟨same, server, (recordedNow client).trans (if_pos rfl), ?_, ?_, ?_⟩
    · rw [clients, ← same]
      exact Function.update_self _ _ _
    · rw [replyClients, ← same]
      exact Function.update_self _ _ _
    · rw [owners, ← same]
      exact Function.update_self _ _ _
  · rw [if_neg same]
    have before := owned index
    have clientNow : (registers.apply hash packet).registers.clientAt index =
        registers.clientAt index := by
      rw [clients]
      exact Function.update_of_ne (Ne.symm same) _ _
    have replyClientNow : (registers.apply hash packet).registers.replyClientAt index =
        registers.replyClientAt index := by
      rw [replyClients]
      exact Function.update_of_ne (Ne.symm same) _ _
    have ownerNow : (registers.apply hash packet).registers.ownerAt index =
        registers.ownerAt index := by
      rw [owners]
      exact Function.update_of_ne (Ne.symm same) _ _
    cases held : holder hash index past with
    | none =>
      rw [held] at before
      dsimp only at before ⊢
      rw [clientNow, replyClientNow, ownerNow]
      exact before
    | some other =>
      rw [held] at before
      obtain ⟨place, server', records, inPlace⟩ := before
      have different : client ≠ other := by
        rintro rfl
        exact same place
      refine ⟨place, server', ?_, ?_⟩
      · rw [recordedNow, if_neg different]
        exact records
      · unfold Records
        rw [clientNow, replyClientNow, ownerNow]
        exact inPlace

/-- After the acknowledgement of a prepared migration the owner of the client is the sender, if
the client still has its slot. Records of clients in other slots stay. -/
theorem Owned.chown (owned : Owned hash past registers) {client : ClientAddress}
    {server : ServerAddress} (chown : packet.role = .chown client server) :
    Owned hash (⟨registers, packet, target⟩ :: past) (registers.apply hash packet).registers := by
  obtain ⟨clients, replyClients, owners⟩ := @apply_chown hash registers packet _ _ chown
  intro index
  have holderNow : holder hash index (⟨registers, packet, target⟩ :: past) =
      holder hash index past := by
    simp only [holder, chown]
  have recordedNow (other : ClientAddress) :
      recorded hash other (⟨registers, packet, target⟩ :: past) =
        if client = other ∧ holder hash (slot hash other) past = some other then some server
        else recorded hash other past := by
    simp only [recorded, chown]
  have before := owned index
  rw [holderNow, clients, replyClients]
  cases held : holder hash index past with
  | none =>
    rw [held] at before
    obtain ⟨unused, unusedReply, zeros⟩ := before
    refine ⟨unused, unusedReply, fun elsewhere => ?_⟩
    rw [owners]
    split
    · rename_i found
      rw [Function.update_of_ne, zeros elsewhere]
      rintro rfl
      exact elsewhere (congrArg (slot hash) (unused.symm.trans found))
    · exact zeros elsewhere
  | some other =>
    rw [held] at before
    obtain ⟨place, server', records, inClient, inReply, inOwner⟩ := before
    by_cases same : client = other
    · subst same
      refine ⟨place, server, ?_, ?_⟩
      · rw [recordedNow, place, if_pos ⟨rfl, held⟩]
      · unfold Records
        rw [clients, replyClients, owners]
        refine ⟨inClient, inReply, ?_⟩
        have found : registers.clientAt (hash client.ip client.port) = client :=
          (congrArg registers.clientAt place).trans inClient
        rw [if_pos found, ← place]
        exact Function.update_self _ _ _
    · refine ⟨place, server', ?_, ?_⟩
      · rw [recordedNow, if_neg fun both => same both.1]
        exact records
      · unfold Records
        rw [clients, replyClients, owners]
        refine ⟨inClient, inReply, ?_⟩
        split
        · rename_i found
          rw [Function.update_of_ne, inOwner]
          rintro rfl
          exact same (found.symm.trans inClient)
        · exact inOwner

/-- A packet that changes nothing and is in no record. -/
theorem Owned.keep (owned : Owned hash past registers)
    (kept : (registers.apply hash packet).registers = registers)
    (noSyn : ∀ client, packet.role ≠ .syn client)
    (noChown : ∀ client server, packet.role ≠ .chown client server) :
    Owned hash (⟨registers, packet, target⟩ :: past) (registers.apply hash packet).registers := by
  rw [kept]
  have holderNow (index : BitVec 16) :
      holder hash index (⟨registers, packet, target⟩ :: past) = holder hash index past := by
    cases role : packet.role with
    | syn client => exact absurd role (noSyn client)
    | _ => simp only [holder, role]
  have recordedNow (client : ClientAddress) :
      recorded hash client (⟨registers, packet, target⟩ :: past) =
        recorded hash client past := by
    cases role : packet.role with
    | syn other => exact absurd role (noSyn other)
    | chown other server => exact absurd role (noChown other server)
    | _ => simp only [recorded, role]
  intro index
  have before := owned index
  rw [holderNow]
  cases held : holder hash index past with
  | none =>
    rw [held] at before
    exact before
  | some client =>
    rw [held] at before
    obtain ⟨place, server, records, inPlace⟩ := before
    exact ⟨place, server, (recordedNow client).trans records, inPlace⟩

/-- In every run the slots hold the records. -/
theorem owned_of_run {backends : BitVec 16 → ServerAddress}
    (run : Run hash (.new backends) past registers) : Owned hash past registers := by
  refine run_invariant (Owned hash) (Owned.new backends) ?_ run (meets_true past)
  intro past source packet target _ _ owned advanced
  cases advanced
  cases role : packet.role with
  | syn client => exact owned.syn role
  | segment client =>
    refine owned.keep (apply_segment role).1 (fun _ syn => ?_) fun _ _ chown => ?_
    · cases role.symm.trans syn
    · cases role.symm.trans chown
  | chown client server => exact owned.chown role
  | other =>
    refine owned.keep (apply_other role) (fun _ syn => ?_) fun _ _ chown => ?_
    · cases role.symm.trans syn
    · cases role.symm.trans chown

variable (hash) in
/-- In every run a slot that a SYN has been hashed to holds the record of one client, which is
the last of them, and of the one server that is recorded for it; an ordinary segment goes to
the server recorded for its client if the client is the one in its slot, and otherwise where
it was going; and no other packet than a SYN and the answer to the preparation of a migration
changes a server. The client 0.0.0.0:0 is excepted while no SYN has been hashed to its slot.

Proof: `Owned` relates each slot to the last SYN that was hashed to it and is kept by
the packet of each role. A segment reads its own slot only, and compares the client
there with its own. -/
theorem routed_to_owner (backends : BitVec 16 → ServerAddress) {past : List Transition}
    {registers : IngressRegisters} (run : Run hash (.new backends) past registers) :
    (∀ index client, holder hash index past = some client → slot hash client = index ∧
      ∃ server, recorded hash client past = some server ∧
        registers.Records index client server) ∧
    (∀ index, holder hash index past = none → slot hash UNUSED_CLIENT ≠ index →
      registers.Records index UNUSED_CLIENT UNUSED_SERVER) ∧
    (∀ packet client, packet.role = .segment client →
      client ≠ UNUSED_CLIENT ∨ holder hash (slot hash client) past ≠ none →
        (registers.apply hash packet).packet.destination =
          if holder hash (slot hash client) past = some client then recorded hash client past
          else packet.destination) ∧
    (∀ packet, (∀ client, packet.role ≠ .syn client) →
      (∀ client server, packet.role ≠ .chown client server) →
        (registers.apply hash packet).registers = registers) := by
  have owned := owned_of_run run
  refine ⟨fun index client held => ?_, fun index held elsewhere => ?_,
    fun packet client segment known => ?_, fun packet noSyn noChown => ?_⟩
  · have here := owned index
    rw [held] at here
    exact here
  · have here := owned index
    rw [held] at here
    exact ⟨here.1, here.2.1, here.2.2 elsewhere⟩
  · rw [(@apply_segment hash registers packet client segment).2]
    have here := owned (slot hash client)
    cases held : holder hash (slot hash client) past with
    | none =>
      rw [held] at here known
      have differs : client ≠ UNUSED_CLIENT := known.resolve_right fun absent => absent rfl
      have elsewhere : ¬ registers.clientAt (hash client.ip client.port) = client :=
        fun found => differs (found.symm.trans here.1)
      rw [if_neg elsewhere, if_neg (Option.some_ne_none _).symm]
    | some other =>
      rw [held] at here
      obtain ⟨place, server, records, inClient, inReply, inOwner⟩ := here
      change registers.clientAt (hash client.ip client.port) = other at inClient
      change registers.ownerAt (hash client.ip client.port) = server at inOwner
      rw [inClient, inOwner]
      by_cases same : other = client
      · subst same
        rw [if_pos rfl, if_pos rfl, records]
      · rw [if_neg same, if_neg fun equal => same (Option.some.inj equal)]
  · cases role : packet.role with
    | syn client => exact absurd role (noSyn client)
    | segment client => exact (apply_segment role).1
    | chown client server => exact absurd role (noChown client server)
    | other => exact apply_other role

end IngressRegisters

/-! ## Packets to evaluate -/

/-- A hash of the port alone. -/
def samplePortHash (_ : BitVec 32) (port : BitVec 16) : BitVec 16 := port

/-- Sixteen servers of node 9. -/
def sampleBackends (index : BitVec 16) : ServerAddress := ⟨BE_MAC, BE_IP, 10000 + index⟩

/-- A segment of a client to the front end. -/
def IngressPacket.sampleSegment (client : ClientAddress) (flags : BitVec 8) : IngressPacket :=
  ⟨0, none, ⟨0, 1⟩, FRONTEND.mac,
    some ⟨client.ip, FRONTEND.ip, .tcp ⟨client.port, FRONTEND.port, flags⟩⟩, ⟨0, 0, 0, 0⟩⟩

/-- A migration message about a client. -/
def IngressPacket.sampleMessage (server : ServerAddress) (client : ClientAddress)
    (flag : BitVec 8) : IngressPacket :=
  ⟨0, none, server.mac, FRONTEND.mac,
    some ⟨server.ip, FRONTEND.ip, .tcpmig ⟨server.port, 0, client, flag⟩⟩, ⟨0, 0, 0, 0⟩⟩

namespace IngressRegisters

/-- A client has sent a SYN, and its connection has moved from the first server to the third,
which its next segment goes to. -/
theorem routed_to_third_server :
    ∃ past registers, Run samplePortHash (.new sampleBackends) past registers ∧
      (registers.apply samplePortHash
        (.sampleSegment ⟨0x0a000002, 4321⟩ 0b00010000)).packet.destination =
        some (sampleBackends 2) := by
  have run : Run samplePortHash (.new sampleBackends) _ _ :=
    @run_of_execute _ _ _ _ _ [.sampleSegment ⟨0x0a000002, 4321⟩ SYN_FLAGS,
      .sampleMessage (sampleBackends 2) ⟨0x0a000002, 4321⟩ PREPARE_MIG_ACK_FLAG] _ _ _ _ .nil rfl
  refine ⟨_, _, run, ?_⟩
  rw [(routed_to_owner samplePortHash sampleBackends run).2.2.1
    (.sampleSegment ⟨0x0a000002, 4321⟩ 0b00010000) ⟨0x0a000002, 4321⟩ rfl (.inl (by decide))]
  rfl

/-- A segment of the client 0.0.0.0:0, which nothing is recorded for, is rewritten; and an
answer to the preparation of a migration that has another flag beside the load flag does
not move the connection to its sender. -/
theorem unrecorded_rewritten :
    (∃ past registers packet client, Run samplePortHash (.new sampleBackends) past registers ∧
      packet.role = .segment client ∧ recorded samplePortHash client past = none ∧
      (registers.apply samplePortHash packet).packet.destination = some UNUSED_SERVER ∧
      packet.destination ≠ some UNUSED_SERVER) ∧
    ∃ past registers, Run samplePortHash (.new sampleBackends) past registers ∧
      holder samplePortHash 4321 past = some ⟨0x0a000002, 4321⟩ ∧
      ((registers.apply samplePortHash (.sampleMessage (sampleBackends 2) ⟨0x0a000002, 4321⟩
        0b00110011)).registers.apply samplePortHash
          (.sampleSegment ⟨0x0a000002, 4321⟩ 0b00010000)).packet.destination =
        some (sampleBackends 0) := by
  refine ⟨⟨[], _, .sampleSegment ⟨0, 0⟩ 0b00010000, ⟨0, 0⟩, .nil, rfl, rfl, rfl, by decide⟩, ?_⟩
  exact ⟨_, _, @run_of_execute _ _ _ _ _ [.sampleSegment ⟨0x0a000002, 4321⟩ SYN_FLAGS] _ _ _ _
    .nil rfl, rfl, rfl⟩

end IngressRegisters

end Capybara
