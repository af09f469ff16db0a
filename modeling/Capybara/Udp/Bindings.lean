import Capybara.Udp.Peer
import Mathlib.Data.List.Nodup

/-!
# The bindings of UDP sockets

`udp/peer.rs` keeps the address of a bound socket under its descriptor, and the queue that the
socket receives from under the address. Sockets are opened, bound and closed in any order, and
each call may fail. As long as the pool offers no port twice, and only private ones, the two
tables describe one another: a call never overwrites the queue of another socket, every bound
socket has a queue to pop from, and a datagram that is accepted goes to one socket.
-/

namespace Capybara

open Tables

/-- `do_pop` panics. -/
inductive UdpPopFault where
  /-- "invalid queue descriptor". -/
  | invalidQueueDescriptor
  /-- The address of the socket has no queue, unwrapped. -/
  | noQueue
  deriving DecidableEq, Repr

/-- The calls that change the bindings. -/
inductive UdpCall where
  | socket (qd : QDesc)
  | bind (qd : QDesc) (addr : SocketAddrV4)
  | close (qd : QDesc)

/-- The descriptor that a call is about. -/
def UdpCall.descriptor : UdpCall → QDesc
  | .socket qd | .bind qd _ | .close qd => qd

namespace UdpPeer

/-- One call. -/
def call (peer : UdpPeer) : UdpCall → Outcome
  | .socket qd => peer.doSocket qd
  | .bind qd addr => peer.doBind qd addr
  | .close qd => peer.doClose qd

/-- The tables after some calls, whether they succeed or not. -/
def callAll (peer : UdpPeer) (calls : List UdpCall) : UdpPeer :=
  calls.foldl (fun peer action => (peer.call action).1) peer

/-- `do_pop`: the queue that a socket receives from. -/
def popQueue (peer : UdpPeer) (qd : QDesc) :
    Except UdpPopFault (Udp.SharedQueue SharedQueueSlot) :=
  match peer.sockets.lookup qd with
  | some (some localAddr) =>
    match peer.bound.lookup localAddr with
    | some queue => .ok queue
    | none => .error .noQueue
  | _ => .error .invalidQueueDescriptor

/-- `do_receive`: the address whose queue gets a datagram, first that of its destination and
then the wildcard. -/
def receiver (peer : UdpPeer) (destination : SocketAddrV4) : Except Fail SocketAddrV4 :=
  match peer.bound.lookup destination with
  | some _ => .ok destination
  | none =>
    let wildcard : SocketAddrV4 := { destination with ip := 0 }
    match peer.bound.lookup wildcard with
    | some _ => .ok wildcard
    | none => .error ⟨.ENOTCONN, "port not bound"⟩

/-- A descriptor is bound to an address. -/
def Binds (peer : UdpPeer) (qd : QDesc) (localAddr : SocketAddrV4) : Prop :=
  peer.sockets.lookup qd = some (some localAddr)

/-- The two tables describe one another, and a port in the pool is bound nowhere. -/
structure Paired (peer : UdpPeer) : Prop where
  queued : ∀ qd localAddr, peer.Binds qd localAddr → localAddr ∈ peer.bound
  owned : ∀ localAddr ∈ peer.bound, ∃ qd, peer.Binds qd localAddr
  apart : ∀ qd qd' localAddr, peer.Binds qd localAddr → peer.Binds qd' localAddr → qd = qd'
  distinct : peer.ephemeralPorts.ports.Nodup
  private_ : ∀ port ∈ peer.ephemeralPorts.ports, EphemeralPorts.isPrivate port = true
  unbound : ∀ localAddr ∈ peer.bound, localAddr.port ∉ peer.ephemeralPorts.ports

/-- What `do_bind` gets from the pool: a port that leaves it, or the port that was asked for,
which is not private. -/
inductive Allocates (pool pool' : EphemeralPorts) (asked port : UInt16) : Prop where
  | taken (member : port ∈ pool.ports) (distinct : pool'.ports.Nodup)
      (rest : ∀ other, other ∈ pool'.ports ↔ other ∈ pool.ports ∧ other ≠ port)
  | unpooled (same : pool' = pool) (here : port = asked)
      (notPrivate : EphemeralPorts.isPrivate port = false)

/-- An allocation takes a port out of the pool, or gives one that the pool does not manage. -/
theorem allocate_spec {pool pool' : EphemeralPorts} {asked port : UInt16}
    (distinct : pool.ports.Nodup) (allocated : allocate pool asked = .ok (port, pool')) :
    Allocates pool pool' asked port := by
  unfold allocate at allocated
  split at allocated
  · unfold EphemeralPorts.allocPort at allocated
    split at allocated
    · cases allocated
    · rename_i member
      cases allocated
      refine .taken (not_not.mp member) (distinct.filter _) fun other => ?_
      rw [List.mem_filter, decide_eq_true_eq]
  · rename_i notPrivate
    split at allocated
    · have split := EphemeralPorts.allocAny_ok allocated
      rw [split] at distinct
      obtain ⟨before, -, apart⟩ := List.nodup_append.mp distinct
      refine .taken ?_ before fun other => ?_
      · rw [split]
        exact List.mem_append_right _ List.mem_cons_self
      · rw [split, List.mem_append, List.mem_singleton]
        constructor
        · intro member
          exact ⟨.inl member, apart other member port List.mem_cons_self⟩
        · rintro ⟨member | same, different⟩
          · exact member
          · exact absurd same different
    · cases allocated
      exact .unpooled rfl rfl (Bool.eq_false_iff.mpr notPrivate)

namespace Paired

variable {peer : UdpPeer} {qd : QDesc} {addr : SocketAddrV4}

/-- A new peer has no sockets and no queues. -/
theorem new {pool : EphemeralPorts} (distinct : pool.ports.Nodup)
    (private_ : ∀ port ∈ pool.ports, EphemeralPorts.isPrivate port = true) :
    (UdpPeer.new pool).Paired where
  queued _ _ binds := nomatch binds
  owned _ member := absurd member (AList.notMem_empty _)
  apart _ _ _ binds := nomatch binds
  distinct := distinct
  private_ := private_
  unbound _ member := absurd member (AList.notMem_empty _)

/-- A socket that is opened is not bound. -/
theorem doSocket (paired : peer.Paired) : (peer.doSocket qd).1.Paired := by
  unfold UdpPeer.doSocket
  cases absent : peer.sockets.lookup qd with
  | some socket => exact paired
  | none =>
    have same : ∀ other localAddr,
        Binds { peer with sockets := peer.sockets.insert qd none } other localAddr ↔
          peer.Binds other localAddr := by
      intro other localAddr
      refine Table.lookup_insert_iff ?_ ?_ other
      · rw [absent]
        exact (Option.some_ne_none _).symm
      · exact (Option.some_ne_none localAddr).symm
    obtain ⟨queued, owned, apart, distinct, private_, unbound⟩ := paired
    refine ⟨fun other localAddr binds => ?_, fun localAddr member => ?_,
      fun first second localAddr binds binds' => ?_, distinct, private_, unbound⟩
    · exact queued other localAddr ((same other localAddr).mp binds)
    · obtain ⟨owner, binds⟩ := owned localAddr member
      exact ⟨owner, (same owner localAddr).mpr binds⟩
    · exact apart first second localAddr ((same first localAddr).mp binds)
        ((same second localAddr).mp binds')

/-- The pool may change as long as what it offers is bound nowhere. -/
theorem withPool (paired : peer.Paired) {pool : EphemeralPorts} (distinct : pool.ports.Nodup)
    (fewer : ∀ port ∈ pool.ports, port ∈ peer.ephemeralPorts.ports) :
    Paired { peer with ephemeralPorts := pool } where
  queued := paired.queued
  owned := paired.owned
  apart := paired.apart
  distinct := distinct
  private_ port member := paired.private_ port (fewer port member)
  unbound localAddr bound member := paired.unbound localAddr bound (fewer _ member)

/-- The address that is bound has not been bound before. -/
theorem fresh (paired : peer.Paired) {pool : EphemeralPorts} {port : UInt16}
    (unused : peer.bound.lookup addr = none)
    (allocates : Allocates peer.ephemeralPorts pool addr.port port) :
    { addr with port } ∉ peer.bound := by
  cases allocates with
  | taken member distinct rest => exact fun bound => paired.unbound _ bound member
  | unpooled same here notPrivate =>
    subst here
    exact AList.lookup_eq_none.mp unused

/-- A failed call gives back what it has taken. -/
theorem rollback (paired : peer.Paired) {pool : EphemeralPorts} {port asked : UInt16}
    (allocates : Allocates peer.ephemeralPorts pool asked port) :
    (UdpPeer.rollback { peer with ephemeralPorts := pool } port).Paired := by
  unfold UdpPeer.rollback
  cases allocates with
  | taken member distinct rest =>
    rw [if_pos (paired.private_ port member)]
    refine paired.withPool ?_ fun other inside => ?_
    · refine List.nodup_append.mpr
        ⟨distinct, List.nodup_singleton _, fun other inside last same => ?_⟩
      rw [List.mem_singleton] at same
      rintro rfl
      exact ((rest other).mp inside).2 same
    · obtain inside | last := List.mem_append.mp inside
      · exact ((rest other).mp inside).1
      · rw [List.mem_singleton] at last
        rwa [last]
  | unpooled same here notPrivate =>
    subst same
    rw [notPrivate, if_neg Bool.false_ne_true]
    exact paired

/-- A socket is bound to an address that is not bound yet. -/
theorem bind (paired : peer.Paired) {pool : EphemeralPorts} {port : UInt16}
    (unused : peer.bound.lookup addr = none) (opened : peer.sockets.lookup qd = some none)
    (allocates : Allocates peer.ephemeralPorts pool addr.port port)
    (queue : Udp.SharedQueue SharedQueueSlot) :
    Paired { peer with
      ephemeralPorts := pool
      sockets := peer.sockets.insert qd (some { addr with port })
      bound := peer.bound.insert { addr with port } queue } := by
  have fresh := paired.fresh unused allocates
  have others : ∀ other localAddr, peer.Binds other localAddr → other ≠ qd := by
    rintro other localAddr binds rfl
    cases opened.symm.trans binds
  have binds_iff (other : QDesc) (localAddr : SocketAddrV4) :
      (peer.sockets.insert qd (some { addr with port })).lookup other = some (some localAddr) ↔
        other = qd ∧ localAddr = { addr with port } ∨ peer.Binds other localAddr := by
    rw [Table.lookup_insert_eq]
    by_cases same : other = qd
    · rw [if_pos same, Option.some_inj, Option.some_inj]
      constructor
      · exact fun here => .inl ⟨same, here.symm⟩
      · rintro (⟨-, here⟩ | binds)
        · exact here.symm
        · exact absurd same (others other localAddr binds)
    · rw [if_neg same]
      exact (or_iff_right fun here => same here.1).symm
  have remaining : pool.ports.Nodup ∧ ∀ other ∈ pool.ports, other ∈ peer.ephemeralPorts.ports := by
    cases allocates with
    | taken member distinct rest => exact ⟨distinct, fun other inside => ((rest other).mp inside).1⟩
    | unpooled same here notPrivate =>
      subst same
      exact ⟨paired.distinct, fun _ inside => inside⟩
  have gone : port ∉ pool.ports := by
    cases allocates with
    | taken member distinct rest => exact fun inside => ((rest port).mp inside).2 rfl
    | unpooled same here notPrivate =>
      subst same
      exact fun inside => absurd (paired.private_ port inside) (by rw [notPrivate]; exact nofun)
  constructor
  case queued =>
    intro other localAddr binds
    rw [AList.mem_insert]
    obtain ⟨-, here⟩ | binds := (binds_iff other localAddr).mp binds
    · exact .inl here
    · exact .inr (paired.queued other localAddr binds)
  case owned =>
    intro localAddr member
    obtain here | member := AList.mem_insert _ |>.mp member
    · exact ⟨qd, (binds_iff qd localAddr).mpr (.inl ⟨rfl, here⟩)⟩
    · obtain ⟨owner, binds⟩ := paired.owned localAddr member
      exact ⟨owner, (binds_iff owner localAddr).mpr (.inr binds)⟩
  case apart =>
    intro first second localAddr binds binds'
    obtain ⟨isFirst, here⟩ | binds := (binds_iff first localAddr).mp binds
    · obtain ⟨isSecond, -⟩ | binds' := (binds_iff second localAddr).mp binds'
      · rw [isFirst, isSecond]
      · exact absurd (paired.queued second localAddr binds') (here ▸ fresh)
    · obtain ⟨-, here⟩ | binds' := (binds_iff second localAddr).mp binds'
      · exact absurd (paired.queued first localAddr binds) (here ▸ fresh)
      · exact paired.apart first second localAddr binds binds'
  case distinct => exact remaining.1
  case private_ => exact fun other inside => paired.private_ other (remaining.2 other inside)
  case unbound =>
    intro localAddr member inside
    obtain here | member := AList.mem_insert _ |>.mp member
    · subst here
      exact gone inside
    · exact paired.unbound localAddr member (remaining.2 _ inside)

/-- A call of `do_bind` changes nothing, gives back what it has taken, or binds the socket to an
address that was not bound. -/
theorem doBind_cases (paired : peer.Paired) (qd : QDesc) (addr : SocketAddrV4) :
    (peer.doBind qd addr).1 = peer ∨ ∃ port pool, peer.bound.lookup addr = none ∧
      Allocates peer.ephemeralPorts pool addr.port port ∧
      ((peer.doBind qd addr).1 = UdpPeer.rollback { peer with ephemeralPorts := pool } port ∨
        peer.sockets.lookup qd = some none ∧ (peer.doBind qd addr).1 = { peer with
          ephemeralPorts := pool
          sockets := peer.sockets.insert qd (some { addr with port })
          bound := peer.bound.insert { addr with port } (.new RECV_QUEUE_MAX_SIZE) }) := by
  unfold UdpPeer.doBind
  cases unused : peer.bound.lookup addr with
  | some queue => exact .inl rfl
  | none =>
    cases allocated : allocate peer.ephemeralPorts addr.port with
    | error fail => exact .inl rfl
    | ok allocation =>
      obtain ⟨port, pool⟩ := allocation
      have allocates := allocate_spec paired.distinct allocated
      have fresh := AList.lookup_eq_none.mpr (paired.fresh unused allocates)
      refine .inr ⟨port, pool, rfl, allocates, ?_⟩
      cases opened : peer.sockets.lookup qd with
      | none =>
        simp only [opened]
        exact .inl trivial
      | some socket =>
        cases socket with
        | none =>
          simp only [opened, fresh]
          exact .inr ⟨trivial, trivial⟩
        | some localAddr =>
          simp only [opened]
          exact .inl trivial

/-- A `do_bind` keeps the two tables in step, whether it succeeds or fails. -/
theorem doBind (paired : peer.Paired) : (peer.doBind qd addr).1.Paired := by
  obtain same | ⟨port, pool, unused, allocates, returned | ⟨opened, bound⟩⟩ :=
    paired.doBind_cases qd addr
  · rw [same]
    exact paired
  · rw [returned]
    exact paired.rollback allocates
  · rw [bound]
    exact paired.bind unused opened allocates _

/-- A socket that is closed takes its queue with it. -/
theorem doClose (paired : peer.Paired) : (peer.doClose qd).1.Paired := by
  unfold UdpPeer.doClose
  cases opened : peer.sockets.lookup qd with
  | none => exact paired
  | some socket =>
    have erased (other : QDesc) (localAddr : SocketAddrV4) :
        (peer.sockets.erase qd).lookup other = some (some localAddr) ↔
          other ≠ qd ∧ peer.Binds other localAddr := by
      rw [Table.lookup_erase_eq]
      by_cases same : other = qd
      · rw [if_pos same]
        exact iff_of_false nofun fun here => here.1 same
      · rw [if_neg same]
        exact (and_iff_right same).symm
    cases socket with
    | none =>
      have kept : ∀ other localAddr, peer.Binds other localAddr → other ≠ qd := by
        rintro other localAddr binds rfl
        cases opened.symm.trans binds
      refine ⟨fun other localAddr binds => ?_, fun localAddr member => ?_,
        fun first second localAddr binds binds' => ?_, paired.distinct, paired.private_,
        paired.unbound⟩
      · exact paired.queued other localAddr ((erased other localAddr).mp binds).2
      · obtain ⟨owner, binds⟩ := paired.owned localAddr member
        exact ⟨owner, (erased owner localAddr).mpr ⟨kept owner localAddr binds, binds⟩⟩
      · exact paired.apart first second localAddr ((erased first localAddr).mp binds).2
          ((erased second localAddr).mp binds').2
    | some closed =>
      obtain ⟨queue, bound⟩ := Option.isSome_iff_exists.mp
        (AList.lookup_isSome.mpr (paired.queued qd closed opened))
      simp only [bound]
      refine ⟨fun other localAddr binds => ?_, fun localAddr member => ?_,
        fun first second localAddr binds binds' => ?_, paired.distinct, paired.private_,
        fun localAddr member => paired.unbound localAddr (AList.mem_erase.mp member).2⟩
      · obtain ⟨different, binds'⟩ := (erased other localAddr).mp binds
        refine AList.mem_erase.mpr ⟨?_, paired.queued other localAddr binds'⟩
        intro same
        subst same
        exact different (paired.apart other qd localAddr binds' opened)
      · obtain ⟨different, member⟩ := AList.mem_erase.mp member
        obtain ⟨owner, binds⟩ := paired.owned localAddr member
        refine ⟨owner, (erased owner localAddr).mpr ⟨?_, binds⟩⟩
        rintro rfl
        cases opened.symm.trans binds
        exact different rfl
      · exact paired.apart first second localAddr ((erased first localAddr).mp binds).2
          ((erased second localAddr).mp binds').2

/-- So does every call. -/
theorem call (paired : peer.Paired) (action : UdpCall) : (peer.call action).1.Paired := by
  cases action with
  | socket qd => exact paired.doSocket
  | bind qd addr => exact paired.doBind
  | close qd => exact paired.doClose

/-- So do all calls one after the other, by induction on their list. -/
theorem callAll (paired : peer.Paired) (calls : List UdpCall) : (peer.callAll calls).Paired := by
  induction calls generalizing peer with
  | nil => exact paired
  | cons action later inductionHypothesis => exact inductionHypothesis (paired.call action)

/-- A call leaves the sockets alone that it is not about, and their queues. -/
theorem call_others (paired : peer.Paired) (action : UdpCall) {localAddr : SocketAddrV4}
    (other : qd ≠ action.descriptor) (binds : peer.Binds qd localAddr) :
    (peer.call action).1.Binds qd localAddr ∧
      (peer.call action).1.bound.lookup localAddr = peer.bound.lookup localAddr := by
  cases action with
  | socket opened =>
    have other : qd ≠ opened := other
    simp only [UdpPeer.call, UdpPeer.doSocket]
    cases peer.sockets.lookup opened with
    | some socket => exact ⟨binds, rfl⟩
    | none =>
      refine ⟨?_, rfl⟩
      rw [Binds, Table.lookup_insert_eq, if_neg other]
      exact binds
  | bind named addr =>
    have other : qd ≠ named := other
    rw [UdpPeer.call]
    obtain same | ⟨port, pool, unused, allocates, returned | ⟨-, bound⟩⟩ :=
      paired.doBind_cases named addr
    · rw [same]
      exact ⟨binds, rfl⟩
    · rw [returned, UdpPeer.rollback]
      split <;> exact ⟨binds, rfl⟩
    · rw [bound]
      constructor
      · rw [Binds, Table.lookup_insert_eq, if_neg other]
        exact binds
      · rw [Table.lookup_insert_eq, if_neg]
        rintro rfl
        exact paired.fresh unused allocates (paired.queued qd _ binds)
  | close closed =>
    have other : qd ≠ closed := other
    have kept : (peer.sockets.erase closed).lookup qd = some (some localAddr) := by
      rw [Table.lookup_erase_eq, if_neg other]
      exact binds
    simp only [UdpPeer.call, UdpPeer.doClose]
    cases opened : peer.sockets.lookup closed with
    | none => exact ⟨binds, rfl⟩
    | some socket =>
      cases socket with
      | none => exact ⟨kept, rfl⟩
      | some freed =>
        dsimp only
        cases peer.bound.lookup freed with
        | none => exact ⟨kept, rfl⟩
        | some queue =>
          refine ⟨kept, ?_⟩
          rw [Table.lookup_erase_eq, if_neg]
          rintro rfl
          exact other (paired.apart qd closed _ binds opened)

/-- A bound socket has a queue to pop from. -/
theorem popQueue (paired : peer.Paired) {localAddr : SocketAddrV4}
    (binds : peer.Binds qd localAddr) :
    ∃ queue, peer.popQueue qd = .ok queue ∧ peer.bound.lookup localAddr = some queue := by
  obtain ⟨queue, bound⟩ := Option.isSome_iff_exists.mp
    (AList.lookup_isSome.mpr (paired.queued qd localAddr binds))
  refine ⟨queue, ?_, bound⟩
  have opened : peer.sockets.lookup qd = some (some localAddr) := binds
  simp only [UdpPeer.popQueue, opened, bound]

end Paired

/-- A datagram goes to a queue exactly if its destination is bound, and otherwise the wildcard
with its port. -/
theorem receiver_ok_iff {peer : UdpPeer} {destination localAddr : SocketAddrV4} :
    peer.receiver destination = .ok localAddr ↔ localAddr ∈ peer.bound ∧
      (localAddr = destination ∨ destination ∉ peer.bound ∧
        localAddr = { destination with ip := 0 }) := by
  unfold receiver
  cases direct : peer.bound.lookup destination with
  | some queue =>
    have member : destination ∈ peer.bound := Table.mem_of_lookup direct
    simp only [Except.ok.injEq]
    constructor
    · rintro rfl
      exact ⟨member, .inl rfl⟩
    · rintro ⟨-, same | ⟨absent, -⟩⟩
      · exact same.symm
      · exact absurd member absent
  | none =>
    have absent : destination ∉ peer.bound := AList.lookup_eq_none.mp direct
    dsimp only
    cases wildcard : peer.bound.lookup { destination with ip := 0 } with
    | some queue =>
      have member := Table.mem_of_lookup wildcard
      simp only [Except.ok.injEq]
      constructor
      · rintro rfl
        exact ⟨member, .inr ⟨absent, rfl⟩⟩
      · rintro ⟨bound, rfl | ⟨-, same⟩⟩
        · exact absurd bound absent
        · exact same.symm
    | none =>
      refine iff_of_false nofun ?_
      rintro ⟨bound, rfl | ⟨-, rfl⟩⟩
      · exact absent bound
      · exact AList.lookup_eq_none.mp wildcard bound

/-- Whatever sockets are opened, bound and closed, and whichever calls fail: every bound socket
has a queue of its own that no call about another socket touches, and every datagram that is
accepted goes to the one socket that is bound to its destination, or else to the wildcard with
its port.

Proof: `Paired` relates the sockets to the queues and the pool of ports, and every call
keeps it, failing ones included. That other sockets are untouched is a lemma about one
call, and `receiver` looks among the queues only. -/
theorem sockets_own_queues {pool : EphemeralPorts} (distinct : pool.ports.Nodup)
    (private_ : ∀ port ∈ pool.ports, EphemeralPorts.isPrivate port = true)
    (calls : List UdpCall) {peer : UdpPeer} (reached : (new pool).callAll calls = peer) :
    (∀ qd localAddr, peer.Binds qd localAddr →
      (∃ queue, peer.popQueue qd = .ok queue ∧ peer.bound.lookup localAddr = some queue) ∧
      ∀ action, qd ≠ action.descriptor → (peer.call action).1.Binds qd localAddr ∧
        (peer.call action).1.bound.lookup localAddr = peer.bound.lookup localAddr) ∧
    ∀ destination localAddr, peer.receiver destination = .ok localAddr ↔
      ((∃ qd, peer.Binds qd localAddr ∧ ∀ other, peer.Binds other localAddr → other = qd) ∧
        (localAddr = destination ∨ (∀ qd, ¬ peer.Binds qd destination) ∧
          localAddr = { destination with ip := 0 })) := by
  subst reached
  have paired := (Paired.new distinct private_).callAll calls
  have member_iff (localAddr : SocketAddrV4) : localAddr ∈ ((new pool).callAll calls).bound ↔
      ∃ qd, ((new pool).callAll calls).Binds qd localAddr :=
    ⟨paired.owned localAddr, fun ⟨qd, binds⟩ => paired.queued qd localAddr binds⟩
  constructor
  · intro qd localAddr binds
    exact ⟨paired.popQueue binds, fun action other => paired.call_others action other binds⟩
  · intro destination localAddr
    rw [receiver_ok_iff, member_iff, member_iff, not_exists]
    refine and_congr_left fun _ => ⟨?_, ?_⟩
    · rintro ⟨qd, binds⟩
      exact ⟨qd, binds, fun other binds' => paired.apart other qd localAddr binds' binds⟩
    · rintro ⟨qd, binds, -⟩
      exact ⟨qd, binds⟩

/-- One socket is bound to a port of the pool, one fails to bind, and one is closed. -/
theorem sockets_own_queues_after_close :
    ∃ peer : UdpPeer, (new ⟨[50000, 50001]⟩).callAll [.socket 1, .socket 2, .bind 1 ⟨7, 0⟩,
        .bind 3 ⟨7, 0⟩, .bind 2 ⟨0, 53⟩, .socket 3, .close 1] = peer ∧
      peer.receiver ⟨9, 53⟩ = .ok ⟨0, 53⟩ ∧
      ∃ qd, peer.Binds qd ⟨0, 53⟩ ∧ ∀ other, peer.Binds other ⟨0, 53⟩ → other = qd := by
  have private_ : ∀ port ∈ [50000, 50001], EphemeralPorts.isPrivate port = true :=
    List.forall_mem_cons.mpr ⟨rfl, List.forall_mem_singleton.mpr rfl⟩
  have owns := @sockets_own_queues ⟨[50000, 50001]⟩ (by decide) private_ [.socket 1, .socket 2,
    .bind 1 ⟨7, 0⟩, .bind 3 ⟨7, 0⟩, .bind 2 ⟨0, 53⟩, .socket 3, .close 1] _ rfl
  refine ⟨_, rfl, rfl, ?_⟩
  exact ((owns.2 ⟨9, 53⟩ ⟨0, 53⟩).mp rfl).1

end UdpPeer

end Capybara
