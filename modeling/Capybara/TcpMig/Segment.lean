import Capybara.TcpMig.Header

/-!
# Migration messages in fragments

`tcpmig/segment/mod.rs` and `tcpmig/segment/defragmenter.rs`. A message is cut into
fragments that carry their position and whether another one follows. The receiving
side stores fragments at their positions, learns the number of fragments from the
last one, and hands out the payload once as many fragments have arrived.

The fragmenter is an iterator; `fragments` collects it. Every fragment shortens the
payload, except a last one for a counter that has come back to zero, so the number
of rounds is bounded by the length.
-/

namespace Capybara

open Wire

/-- `MAX_FRAGMENT_SIZE`: what the network and the TCPMig header leave of 1500 bytes. -/
def MAX_FRAGMENT_SIZE : Nat := 1500 - 20 - TCPMIG_HEADER_SIZE

/-- `TcpMigSegment`. -/
structure TcpMigSegment where
  dstLinkAddr : MacAddress
  srcLinkAddr : MacAddress
  ipv4Hdr : Ipv4Header
  tcpmigHdr : TcpMigHeader
  data : Buffer
  deriving DecidableEq, Repr

/-- What `write_header` and `take_body` put behind the network header. -/
def TcpMigSegment.datagram (segment : TcpMigSegment) : Buffer :=
  segment.tcpmigHdr.serialize segment.ipv4Hdr segment.data ++ segment.data

/-! ## Cutting -/

/-- `TcpMigFragmenter`; the counter is a `u16`. -/
structure TcpMigFragmenter where
  segment : TcpMigSegment
  currentFragment : Nat
  deriving DecidableEq, Repr

namespace TcpMigFragmenter

/-- `next`. -/
def next (profile : Profile) (fragmenter : TcpMigFragmenter) :
    Checked (Option (TcpMigSegment × TcpMigFragmenter)) :=
  let segment := fragmenter.segment
  if segment.data.length = 0 ∧ fragmenter.currentFragment ≠ 0 then .ok none
  else do
    let (data, rest, flagNextFragment) ← (
      if segment.data.length ≤ MAX_FRAGMENT_SIZE then .ok (segment.data, [], false)
      else do
        let data ← segment.data.trim (segment.data.length - MAX_FRAGMENT_SIZE)
        let rest ← segment.data.adjust MAX_FRAGMENT_SIZE
        .ok (data, rest, true))
    let tcpmigHdr := { segment.tcpmigHdr with
      flagNextFragment, fragmentOffset := UInt16.ofNat fragmenter.currentFragment }
    let currentFragment ← addU16 profile fragmenter.currentFragment 1
    .ok (some ({ segment with tcpmigHdr, data },
      { segment := { segment with data := rest }, currentFragment }))

/-- Everything the iterator yields, within the given number of rounds. -/
def collect (profile : Profile) : Nat → TcpMigFragmenter → Checked (List TcpMigSegment)
  | 0, _ => .error .neverReturns
  | rounds + 1, fragmenter => do
    match ← fragmenter.next profile with
    | none => .ok []
    | some (fragment, fragmenter) => do
      let others ← collect profile rounds fragmenter
      .ok (fragment :: others)

end TcpMigFragmenter

/-- `TcpMigSegment::fragments`, collected. -/
def TcpMigSegment.fragments (profile : Profile) (segment : TcpMigSegment) :
    Checked (List TcpMigSegment) :=
  TcpMigFragmenter.collect profile (segment.data.length + 3) { segment, currentFragment := 0 }

/-! ## Joining -/

/-- `TcpMigDefragmenter`. -/
structure TcpMigDefragmenter where
  fragments : List Buffer
  totalFragments : Option Nat
  currentFragments : Nat
  currentSize : Nat
  deriving DecidableEq, Repr

namespace TcpMigDefragmenter

/-- `TcpMigDefragmenter::new`. -/
def new : TcpMigDefragmenter := ⟨[], none, 0, 0⟩

/-- `reset`: everything but the size. -/
def reset (defragmenter : TcpMigDefragmenter) : TcpMigDefragmenter :=
  { defragmenter with fragments := [], totalFragments := none, currentFragments := 0 }

/-- `fragments.reserve(count - fragments.len())`. -/
def reserve (profile : Profile) (count held : Nat) : Checked Unit := do
  let additional ← subUsize profile count held
  if additional < 2 ^ 63 then .ok () else .error .capacityOverflow

/-- "Store buffer at the correct position", with empty buffers up to it. -/
def store (fragments : List Buffer) (offset : Nat) (buf : Buffer) : List Buffer :=
  (fragments ++ List.replicate (offset + 1 - fragments.length) []).set offset buf

/-- "Defragment": copy the fragments to the front of a new buffer of the given size. -/
def join (size : Nat) (fragments : List Buffer) : Checked Buffer :=
  if size = 0 then .error .zeroCapacityBuffer
  else do
    let (written, remaining) ← Writer.sequence
      (fragments.map fun fragment => Writer.put Fault.sliceOutOfRange fragment)
      (List.replicate size 0)
    .ok (written ++ remaining)

/-- The number of fragments once a fragment has been seen: the last one tells it. -/
def count (profile : Profile) (defragmenter : TcpMigDefragmenter) (hdr : TcpMigHeader) :
    Checked (Option Nat) :=
  if hdr.flagNextFragment then .ok defragmenter.totalFragments
  else do
    let count := hdr.fragmentOffset.toNat + 1
    reserve profile count defragmenter.fragments.length
    .ok (some count)

/-- A fragment takes its place. -/
def gather (profile : Profile) (defragmenter : TcpMigDefragmenter) (hdr : TcpMigHeader)
    (buf : Buffer) : Checked TcpMigDefragmenter := do
  let totalFragments ← defragmenter.count profile hdr
  .ok {
    fragments := store defragmenter.fragments hdr.fragmentOffset.toNat buf
    totalFragments
    currentFragments := defragmenter.currentFragments + 1
    currentSize := defragmenter.currentSize + buf.length }

/-- "Return if more fragments left", else hand out the payload and reset. -/
def release (defragmenter : TcpMigDefragmenter) (hdr : TcpMigHeader) :
    Checked (TcpMigDefragmenter × Option (TcpMigHeader × Buffer)) :=
  if defragmenter.totalFragments ≠ some defragmenter.currentFragments then .ok (defragmenter, none)
  else do
    let buffer ← join defragmenter.currentSize defragmenter.fragments
    let hdr := { hdr with flagNextFragment := false, fragmentOffset := 0 }
    .ok (defragmenter.reset, some (hdr, buffer))

/-- `defragment`. A single fragment is handed out at once. -/
def defragment (profile : Profile) (defragmenter : TcpMigDefragmenter) (hdr : TcpMigHeader)
    (buf : Buffer) : Checked (TcpMigDefragmenter × Option (TcpMigHeader × Buffer)) :=
  if hdr.flagNextFragment = false ∧ hdr.fragmentOffset = 0 then
    .ok (defragmenter.reset, some (hdr, buf))
  else do
    let defragmenter ← defragmenter.gather profile hdr buf
    defragmenter.release hdr

end TcpMigDefragmenter

end Capybara
