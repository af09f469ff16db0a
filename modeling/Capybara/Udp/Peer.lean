import Capybara.Ip.Ephemeral
import Capybara.Lib.Tables
import Capybara.Runtime.Buffer
import Capybara.Udp.SharedQueue

/-!
# The UDP peer

`udp/peer.rs`, the operations that open, bind and close sockets. A socket that is bound
has a queue in `bound` under its address. The error of an operation is returned beside
the tables, which it may have changed.
-/

namespace Capybara

open Tables

/-- `SharedQueueSlot`. -/
structure SharedQueueSlot where
  localAddr : SocketAddrV4
  remote : SocketAddrV4
  data : Buffer
  deriving DecidableEq, Repr

/-- `RECV_QUEUE_MAX_SIZE`. -/
def RECV_QUEUE_MAX_SIZE : Nat := 1024

/-- `UdpPeer`, as far as the control operations read it. -/
structure UdpPeer where
  ephemeralPorts : EphemeralPorts
  sockets : Table QDesc (Option SocketAddrV4)
  bound : Table SocketAddrV4 (Udp.SharedQueue SharedQueueSlot)

namespace UdpPeer

/-- `UdpPeer::new`, with a given pool of ports. -/
def new (ephemeralPorts : EphemeralPorts) : UdpPeer := ⟨ephemeralPorts, ∅, ∅⟩

/-- The tables after an operation, with its result. -/
abbrev Outcome := UdpPeer × Except Fail Unit

/-- `do_socket`. -/
def doSocket (peer : UdpPeer) (qd : QDesc) : Outcome :=
  match peer.sockets.lookup qd with
  | none => ({ peer with sockets := peer.sockets.insert qd none }, .ok ())
  | some _ => (peer, .error ⟨.EEXIST, "queue descriptor in use"⟩)

/-- The allocation of `do_bind`: the port that will be bound, and the remaining pool. -/
def allocate (free : EphemeralPorts) (port : UInt16) : Except Fail (UInt16 × EphemeralPorts) :=
  if EphemeralPorts.isPrivate port then do
    let free ← free.allocPort port
    .ok (port, free)
  else if port = 0 then free.allocAny
  else .ok (port, free)

/-- A failed `do_bind` gives a private port back. -/
def rollback (peer : UdpPeer) (port : UInt16) : UdpPeer :=
  if EphemeralPorts.isPrivate port then
    { peer with ephemeralPorts := peer.ephemeralPorts.free port }
  else peer

/-- `do_bind`. -/
def doBind (peer : UdpPeer) (qd : QDesc) (addr : SocketAddrV4) : Outcome :=
  match peer.bound.lookup addr with
  | some _ => (peer, .error ⟨.EADDRINUSE, "address in use"⟩)
  | none =>
    match allocate peer.ephemeralPorts addr.port with
    | .error fail => (peer, .error fail)
    | .ok (port, ephemeralPorts) =>
      let addr : SocketAddrV4 := { addr with port }
      let peer := { peer with ephemeralPorts }
      match peer.sockets.lookup qd with
      | some none =>
        let peer' := { peer with
          sockets := peer.sockets.insert qd (some addr)
          bound := peer.bound.insert addr (.new RECV_QUEUE_MAX_SIZE) }
        match peer.bound.lookup addr with
        | some _ => (peer'.rollback port, .error ⟨.EADDRINUSE, "address in use"⟩)
        | none => (peer', .ok ())
      | _ => (peer.rollback port, .error ⟨.EBADF, "invalid queue descriptor"⟩)

/-- `do_close`. The socket is removed before its binding is looked for. -/
def doClose (peer : UdpPeer) (qd : QDesc) : Outcome :=
  match peer.sockets.lookup qd with
  | none => (peer, .error ⟨.EBADF, "invalid queue descriptor"⟩)
  | some socket =>
    let peer := { peer with sockets := peer.sockets.erase qd }
    match socket with
    | none => (peer, .error ⟨.EBADF, "invalid queue descriptor"⟩)
    | some localAddr =>
      match peer.bound.lookup localAddr with
      | some _ => ({ peer with bound := peer.bound.erase localAddr }, .ok ())
      | none => (peer, .error ⟨.EBADF, "invalid queue descriptor"⟩)

end UdpPeer

end Capybara
