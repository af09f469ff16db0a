import Capybara.Arp.Peer
import Capybara.Ethernet2.Frame

/-!
# ARP packets as bytes

`arp/packet/header.rs`. A packet has twenty-eight bytes, and what is behind them is not read.
-/

namespace Capybara

open Wire

namespace ArpOperation

/-- The number of an operation. -/
def toU16 : ArpOperation → Nat
  | .request => 1
  | .reply => 2

end ArpOperation

namespace ArpHeader

/-- The bytes of a header. -/
def bytes (header : ArpHeader) : Buffer :=
  bigEndian 2 1 ++ bigEndian 2 0x800 ++ bigEndian 1 6 ++ bigEndian 1 4 ++
    bigEndian 2 header.operation.toU16 ++ bigEndian 6 header.senderHardwareAddr.toNat ++
    bigEndian 4 header.senderProtocolAddr.toNat ++ bigEndian 6 header.targetHardwareAddr.toNat ++
    bigEndian 4 header.targetProtocolAddr.toNat

/-- `ArpHeader::serialize` into a buffer, whatever it held before. -/
def serialize (header : ArpHeader) (buf : Buffer) : Checked Buffer :=
  if buf.length < ARP_MESSAGE_SIZE then .error .sliceOutOfRange
  else .ok (header.bytes ++ buf.drop ARP_MESSAGE_SIZE)

/-- A message has 28 bytes. -/
theorem bytes_length (header : ArpHeader) : header.bytes.length = ARP_MESSAGE_SIZE := by
  simp [bytes, ARP_MESSAGE_SIZE]

/-- A number is read from where it has been written. -/
theorem readAt_eq (before after : Buffer) (width : Nat) {number : Nat} (fits : number < 256 ^ width) :
    readAt (before ++ (bigEndian width number ++ after)) before.length width = number := by
  unfold readAt
  rw [List.drop_left, List.take_left' (bigEndian_length _ _), ofBigEndian_bigEndian fits]

/-- The fields at the places where they are read. -/
theorem fields_eq (header : ArpHeader) (rest : Buffer) :
    let buf := header.bytes ++ rest
    readAt buf 0 2 = 1 ∧ readAt buf 2 2 = 0x800 ∧ readAt buf 4 1 = 6 ∧ readAt buf 5 1 = 4 ∧
    readAt buf 6 2 = header.operation.toU16 ∧
    readAt buf 8 6 = header.senderHardwareAddr.toNat ∧
    readAt buf 14 4 = header.senderProtocolAddr.toNat ∧
    readAt buf 18 6 = header.targetHardwareAddr.toNat ∧
    readAt buf 24 4 = header.targetProtocolAddr.toNat := by
  let start := bigEndian 2 1 ++ bigEndian 2 0x800 ++ bigEndian 1 6 ++ bigEndian 1 4
  let operation := bigEndian 2 header.operation.toU16
  let sender := bigEndian 6 header.senderHardwareAddr.toNat
  let source := bigEndian 4 header.senderProtocolAddr.toNat
  let target := bigEndian 6 header.targetHardwareAddr.toNat
  let dest := bigEndian 4 header.targetProtocolAddr.toNat
  have kind : header.operation.toU16 < 256 ^ 2 := by
    cases header.operation <;> decide
  have operated := readAt_eq start (sender ++ source ++ target ++ dest ++ rest) 2 kind
  have sent := readAt_eq (start ++ operation) (source ++ target ++ dest ++ rest)
    6 header.senderHardwareAddr.isLt
  have sourced := readAt_eq (start ++ operation ++ sender) (target ++ dest ++ rest)
    4 header.senderProtocolAddr.isLt
  have targeted := readAt_eq (start ++ operation ++ sender ++ source) (dest ++ rest)
    6 header.targetHardwareAddr.isLt
  have destined := readAt_eq (start ++ operation ++ sender ++ source ++ target) rest
    4 header.targetProtocolAddr.isLt
  simp only [start, operation, sender, source, target, dest, List.append_assoc, List.length_append,
    bigEndian_length, Nat.reduceAdd] at operated sent sourced targeted destined
  simp only [bytes, List.append_assoc]
  exact ⟨rfl, rfl, rfl, rfl, operated, sent, sourced, targeted, destined⟩

/-- A written header, with anything behind it, is parsed to itself. -/
theorem parse_bytes (header : ArpHeader) (rest : Buffer) :
    parse (header.bytes ++ rest) = .ok header := by
  obtain ⟨hardware, protocol, hlen, plen, operation, sender, source, target, dest⟩ :=
    header.fields_eq rest
  have long : ¬ (header.bytes ++ rest).length < ARP_MESSAGE_SIZE := by
    rw [List.length_append, bytes_length]
    exact Nat.not_lt_of_le (Nat.le_add_right _ _)
  unfold parse
  rw [if_neg long, if_neg (not_not.mpr hardware), if_neg (not_not.mpr protocol),
    if_neg (not_not.mpr hlen), if_neg (not_not.mpr plen), operation, sender, source, target, dest]
  cases known : header.operation <;>
    simp [ArpOperation.toU16, bind, Except.bind, pure, Except.pure, ← known]

end ArpHeader

end Capybara
