import Capybara.Tcp.Server
import Capybara.Udp.Peer

/-!
# Control operations that fail

`bind`, `listen`, `connect` and `close` report errors, for TCP as for UDP. Most of them
are found before anything is written. The others are not undone, except for a port that
was taken off the pool: a failed `bind` has set the migration port and loses a port that
is not private, a `connect` that finds a leftover of an earlier one has replaced it, and
a failed `close` has removed the socket. For each call it is shown exactly when a
failure leaves everything as it was.
-/

namespace Capybara

open Tables

variable {κ ρ : Type} [CongestionControl κ] [RtoCalculator ρ]

/-! ## TCP -/

/-- The calls that open, bind, connect and close sockets. -/
inductive ControlCall where
  | bind (qd : QDesc) (addr : SocketAddrV4)
  | listen (qd : QDesc) (backlog : Nat)
  | connect (digest : UInt32) (qd : QDesc) (remote : SocketAddrV4)
  | close (env : Env) (qd : QDesc)

namespace Inner

/-- Carry out a call. -/
def control (profile : Profile) (inner : Inner κ ρ) : ControlCall → Checked (Outcome κ ρ)
  | .bind qd addr => .ok (inner.bind qd addr)
  | .listen qd backlog => .ok (inner.listen qd backlog)
  | .connect digest qd remote => inner.connect profile digest qd remote
  | .close env qd => inner.doClose profile env qd

/-- The tables, the migration port and the free ports are the same. -/
structure Unchanged (before after : Inner κ ρ) : Prop where
  sockets : ∀ qd, after.sockets.lookup qd = before.sockets.lookup qd
  qds : ∀ key, after.qds.lookup key = before.qds.lookup key
  passive : ∀ localAddr, after.passive.lookup localAddr = before.passive.lookup localAddr
  connecting : ∀ key, after.connecting.lookup key = before.connecting.lookup key
  established : ∀ key, after.established.lookup key = before.established.lookup key
  migrationPort : after.tcpmig.selfUdpPort = before.tcpmig.selfUdpPort
  freePorts : ∀ port, port ∈ after.ephemeralPorts.ports ↔ port ∈ before.ephemeralPorts.ports

/-- The address is that of another socket. -/
def taken (inner : Inner κ ρ) (addr : SocketAddrV4) : Bool :=
  inner.sockets.entries.any fun entry => entry.2.bound == some addr

/-- When a failed call leaves everything as it was. -/
def Restored (inner : Inner κ ρ) : ControlCall → Prop
  | .bind _ addr => inner.taken addr = true ∨
      match allocate inner.ephemeralPorts addr.port with
      | .error _ => True
      | .ok (port, remaining) => inner.tcpmig.selfUdpPort = port ∧
          (addr.port = 0 → EphemeralPorts.isPrivate port = true ∨ port ∈ remaining.ports)
  | .listen _ _ => True
  | .connect _ qd _ =>
      match inner.sockets.lookup qd with
      | some (.inactive none) => inner.ephemeralPorts.ports = []
      | some (.inactive (some _)) => False
      | _ => True
  | .close _ qd => inner.sockets.lookup qd = none

variable {profile : Profile} {inner after : Inner κ ρ} {fail : Fail}

omit [CongestionControl κ] [RtoCalculator ρ] in
/-- Nothing has changed where nothing has happened. -/
theorem Unchanged.refl (inner : Inner κ ρ) : inner.Unchanged inner :=
  ⟨fun _ => rfl, fun _ => rfl, fun _ => rfl, fun _ => rfl, fun _ => rfl, rfl, fun _ => Iff.rfl⟩

/-- What an allocation takes off the pool: a private port that was named, the last port if
none was, and otherwise nothing. -/
theorem allocate_ok {free remaining : EphemeralPorts} {named port : UInt16}
    (allocated : allocate free named = .ok (port, remaining)) :
    (EphemeralPorts.isPrivate named = true ∧ port = named ∧ named ≠ 0 ∧
      free.allocPort named = .ok remaining) ∨
    (named = 0 ∧ free.ports = remaining.ports ++ [port]) ∨
    (EphemeralPorts.isPrivate named = false ∧ port = named ∧ named ≠ 0 ∧ remaining = free) := by
  unfold allocate at allocated
  by_cases isPrivate : EphemeralPorts.isPrivate named = true
  · have nonzero : named ≠ 0 := by
      rintro rfl
      exact absurd isPrivate (by decide)
    rw [if_pos isPrivate] at allocated
    cases taken : free.allocPort named with
    | error fail =>
      rw [taken] at allocated
      cases allocated
    | ok rest =>
      rw [taken] at allocated
      simp only [Bind.bind, Except.bind, if_neg nonzero] at allocated
      cases allocated
      exact .inl ⟨isPrivate, rfl, nonzero, rfl⟩
  · rw [if_neg isPrivate] at allocated
    simp only [Bind.bind, Except.bind] at allocated
    split at allocated
    · rename_i zero
      exact .inr (.inl ⟨zero, EphemeralPorts.allocAny_ok allocated⟩)
    · rename_i nonzero
      cases allocated
      exact .inr (.inr ⟨Bool.eq_false_iff.mpr isPrivate, rfl, nonzero, rfl⟩)

/-- The pool after a port has been allocated and, if it is private, given back. -/
def returned (remaining : EphemeralPorts) (port : UInt16) : EphemeralPorts :=
  if EphemeralPorts.isPrivate port then remaining.free port else remaining

/-- The pool is as before unless a port that is not private was drawn from it. -/
theorem mem_returned_iff {free remaining : EphemeralPorts} {named port : UInt16}
    (allocated : allocate free named = .ok (port, remaining)) :
    (∀ other, other ∈ (returned remaining port).ports ↔ other ∈ free.ports) ↔
      (named = 0 → EphemeralPorts.isPrivate port = true ∨ port ∈ remaining.ports) := by
  obtain ⟨isPrivate, rfl, nonzero, took⟩ | ⟨zero, pool⟩ | ⟨isPrivate, rfl, nonzero, rfl⟩ :=
    allocate_ok allocated
  · refine iff_of_true (fun other => ?_) fun zero => absurd zero nonzero
    rw [returned, if_pos isPrivate]
    exact EphemeralPorts.mem_free_allocPort took other
  · rw [pool]
    by_cases isPrivate : EphemeralPorts.isPrivate port = true
    · refine iff_of_true (fun other => ?_) fun _ => .inl isPrivate
      rw [returned, if_pos isPrivate]
      exact Iff.rfl
    · rw [returned, if_neg isPrivate]
      constructor
      · intro same _
        exact .inr ((same port).mpr (by simp))
      · intro kept other
        obtain isPrivate' | present := kept zero
        · exact absurd isPrivate' isPrivate
        · rw [List.mem_append, List.mem_singleton]
          constructor
          · exact .inl
          · rintro (member | rfl)
            · exact member
            · exact present
  · refine iff_of_true (fun other => ?_) fun zero => absurd zero nonzero
    rw [returned, if_neg (Bool.eq_false_iff.mp isPrivate)]

omit [CongestionControl κ] [RtoCalculator ρ] in
/-- A failed `bind` has drawn a port, given a private one back and set the migration port. -/
theorem bind_failed {qd : QDesc} {addr : SocketAddrV4}
    (failed : inner.bind qd addr = (after, .error fail)) (free : inner.taken addr = false)
    {port : UInt16} {remaining : EphemeralPorts}
    (allocated : allocate inner.ephemeralPorts addr.port = .ok (port, remaining)) :
    after = { inner with
      ephemeralPorts := returned remaining port, tcpmig := inner.tcpmig.setPort port } := by
  unfold bind at failed
  unfold taken at free
  rw [if_neg (Bool.eq_false_iff.mp free), allocated] at failed
  dsimp only at failed
  unfold returned
  split at failed
  · cases failed
  all_goals
    obtain ⟨rfl, -⟩ := Prod.mk.inj failed
    split <;> rfl

omit [CongestionControl κ] [RtoCalculator ρ] in
/-- A failed `bind` leaves everything as it was exactly if the address was taken, no port could
be had, or the migration port was the one it set and the port came from the pool. -/
theorem bind_restored_iff {qd : QDesc} {addr : SocketAddrV4}
    (failed : inner.bind qd addr = (after, .error fail)) :
    inner.Unchanged after ↔ inner.Restored (.bind qd addr) := by
  unfold Restored
  dsimp only
  by_cases used : inner.taken addr = true
  · have same : after = inner := by
      unfold bind at failed
      unfold taken at used
      rw [if_pos used] at failed
      exact (Prod.mk.inj failed).1.symm
    subst same
    exact iff_of_true (.refl _) (.inl used)
  rw [or_iff_right used]
  cases allocated : allocate inner.ephemeralPorts addr.port with
  | error cause =>
    have same : after = inner := by
      unfold bind at failed
      unfold taken at used
      rw [if_neg used, allocated] at failed
      exact (Prod.mk.inj failed).1.symm
    subst same
    exact iff_of_true (.refl _) trivial
  | ok result =>
    obtain ⟨port, remaining⟩ := result
    obtain rfl := bind_failed failed (Bool.eq_false_iff.mpr used) allocated
    have pool := mem_returned_iff allocated
    constructor
    · intro unchanged
      exact ⟨unchanged.migrationPort.symm, pool.mp unchanged.freePorts⟩
    · rintro ⟨same, kept⟩
      exact ⟨fun _ => rfl, fun _ => rfl, fun _ => rfl, fun _ => rfl, fun _ => rfl, same.symm,
        pool.mpr kept⟩

omit [CongestionControl κ] [RtoCalculator ρ] in
/-- A failed `listen` has changed nothing. -/
theorem listen_failed {qd : QDesc} {backlog : Nat}
    (failed : inner.listen qd backlog = (after, .error fail)) : after = inner := by
  unfold listen at failed
  split at failed
  · split at failed
    · exact (Prod.mk.inj failed).1.symm
    · cases failed
  all_goals exact (Prod.mk.inj failed).1.symm

omit [CongestionControl κ] [RtoCalculator ρ] in
/-- Once its local address is known, a socket that was inactive is connecting. -/
theorem connectFrom_socket {digest : UInt32} {qd : QDesc} {localAddr remote : SocketAddrV4}
    {result : Except Fail Unit}
    (connected : inner.connectFrom profile digest qd localAddr remote = .ok (after, result)) :
    after.sockets.lookup qd = some (.connecting localAddr remote) := by
  obtain ⟨⟨localIsn, isnGenerator⟩, -, connected⟩ := bind_ok.mp connected
  dsimp only at connected
  split at connected
  · cases connected
    exact AList.lookup_insert _
  · cases connected
    exact AList.lookup_insert _

omit [CongestionControl κ] [RtoCalculator ρ] in
/-- A failed `connect` leaves everything as it was exactly if it could not begin; an unbound
socket that finds a port, or a bound one, leaves a trace. -/
theorem connect_restored_iff {digest : UInt32} {qd : QDesc} {remote : SocketAddrV4}
    (failed : inner.connect profile digest qd remote = .ok (after, .error fail)) :
    inner.Unchanged after ↔ inner.Restored (.connect digest qd remote) := by
  unfold connect at failed
  unfold Restored
  dsimp only
  split at failed
  · rename_i inactive
    rw [inactive]
    split at failed
    · rename_i cause exhausted
      cases failed
      refine iff_of_true (.refl _) ?_
      unfold EphemeralPorts.allocAny at exhausted
      split at exhausted
      · cases exhausted
      · rename_i nothing
        exact List.getLast?_eq_none_iff.mp nothing
    · rename_i port ephemeralPorts drawn
      refine iff_of_false ?_ ?_
      · intro unchanged
        have socket := (unchanged.sockets qd).symm.trans (connectFrom_socket failed)
        cases inactive.symm.trans socket
      · dsimp only
        rw [EphemeralPorts.allocAny_ok drawn]
        exact List.append_ne_nil_of_right_ne_nil _ (List.cons_ne_nil _ _)
  · rename_i localAddr inactive
    rw [inactive]
    refine iff_of_false ?_ id
    intro unchanged
    have socket := (unchanged.sockets qd).symm.trans (connectFrom_socket failed)
    cases inactive.symm.trans socket
  all_goals
    rename_i socket
    cases failed
    rw [socket]
    exact iff_of_true (.refl _) trivial

/-- A failed `do_close` leaves everything as it was exactly if there was no socket. -/
theorem doClose_restored_iff {env : Env} {qd : QDesc}
    (failed : inner.doClose profile env qd = .ok (after, .error fail)) :
    inner.Unchanged after ↔ inner.Restored (.close env qd) := by
  have removed : after = { inner with sockets := inner.sockets.erase qd } := by
    unfold doClose at failed
    dsimp only at failed
    split at failed
    · split at failed
      · obtain ⟨cb, -, failed⟩ := bind_ok.mp failed
        cases failed
      · cases failed
        rfl
    · cases failed
      rfl
    · cases failed
      rfl
  subst removed
  unfold Restored
  constructor
  · intro unchanged
    have gone := unchanged.sockets qd
    rw [AList.lookup_erase] at gone
    exact gone.symm
  · intro absent
    refine ⟨fun other => ?_, fun _ => rfl, fun _ => rfl, fun _ => rfl, fun _ => rfl, rfl,
      fun _ => Iff.rfl⟩
    rw [Table.lookup_erase_eq]
    split
    · rename_i same
      rw [same, absent]
    · rfl

end Inner

/-! ## UDP -/

/-- The calls that bind and close UDP sockets. -/
inductive UdpControlCall where
  | bind (qd : QDesc) (addr : SocketAddrV4)
  | close (qd : QDesc)

namespace UdpPeer

/-- Carry out a call. -/
def control (peer : UdpPeer) : UdpControlCall → Outcome
  | .bind qd addr => peer.doBind qd addr
  | .close qd => peer.doClose qd

/-- The tables and the free ports are the same. -/
structure Unchanged (before after : UdpPeer) : Prop where
  sockets : ∀ qd, after.sockets.lookup qd = before.sockets.lookup qd
  bound : ∀ addr, after.bound.lookup addr = before.bound.lookup addr
  freePorts : ∀ port, port ∈ after.ephemeralPorts.ports ↔ port ∈ before.ephemeralPorts.ports

/-- When a failed call leaves everything as it was. -/
def Restored (peer : UdpPeer) : UdpControlCall → Prop
  | .bind qd addr => addr ∈ peer.bound ∨
      match allocate peer.ephemeralPorts addr.port with
      | .error _ => True
      | .ok (port, remaining) => peer.sockets.lookup qd ≠ some none ∧
          (addr.port = 0 → EphemeralPorts.isPrivate port = true ∨ port ∈ remaining.ports)
  | .close qd => peer.sockets.lookup qd = none

variable {peer after : UdpPeer} {fail : Fail}

/-- Nothing has changed where nothing has happened. -/
theorem Unchanged.refl (peer : UdpPeer) : peer.Unchanged peer :=
  ⟨fun _ => rfl, fun _ => rfl, fun _ => Iff.rfl⟩

/-- Ports are allocated as for TCP. -/
theorem allocate_eq (free : EphemeralPorts) (port : UInt16) :
    allocate free port = Inner.allocate free port := by
  unfold allocate Inner.allocate
  split
  · rename_i isPrivate
    have nonzero : port ≠ 0 := by
      rintro rfl
      exact absurd isPrivate (by decide)
    simp only [if_neg nonzero]
  · rfl

/-- A port is given back as for TCP. -/
theorem rollback_eq (peer : UdpPeer) (port : UInt16) :
    peer.rollback port = { peer with
      ephemeralPorts := Inner.returned peer.ephemeralPorts port } := by
  unfold rollback Inner.returned
  split <;> rfl

/-- A failed `do_bind` leaves everything as it was exactly if the address was taken, no port
could be had, or the socket could not be bound and the port came from the pool. -/
theorem doBind_restored_iff {qd : QDesc} {addr : SocketAddrV4}
    (failed : peer.doBind qd addr = (after, .error fail)) :
    peer.Unchanged after ↔ peer.Restored (.bind qd addr) := by
  unfold doBind at failed
  unfold Restored
  dsimp only
  split at failed
  · rename_i queue used
    obtain ⟨rfl, -⟩ := Prod.mk.inj failed
    exact iff_of_true (.refl _) (.inl (Table.mem_of_lookup used))
  rename_i unused
  have absent : addr ∉ peer.bound := AList.lookup_eq_none.mp unused
  rw [or_iff_right absent]
  cases allocated : allocate peer.ephemeralPorts addr.port with
  | error cause =>
    rw [allocated] at failed
    obtain ⟨rfl, -⟩ := Prod.mk.inj failed
    exact iff_of_true (.refl _) trivial
  | ok allocation =>
    obtain ⟨port, remaining⟩ := allocation
    have pool := Inner.mem_returned_iff (allocate_eq _ _ ▸ allocated)
    rw [allocated] at failed
    dsimp only at failed ⊢
    split at failed
    · rename_i unbound
      split at failed
      · obtain ⟨rfl, -⟩ := Prod.mk.inj failed
        refine iff_of_false ?_ fun restored => restored.1 unbound
        intro unchanged
        have socket := unchanged.sockets qd
        rw [rollback_eq] at socket
        dsimp only at socket
        rw [AList.lookup_insert, unbound] at socket
        cases socket
      · cases failed
    · rename_i bound
      obtain ⟨rfl, -⟩ := Prod.mk.inj failed
      rw [rollback_eq]
      constructor
      · intro unchanged
        exact ⟨bound, pool.mp unchanged.freePorts⟩
      · rintro ⟨-, kept⟩
        exact ⟨fun _ => rfl, fun _ => rfl, pool.mpr kept⟩

/-- A failed `do_close` leaves everything as it was exactly if there was no socket. -/
theorem doClose_restored_iff {qd : QDesc} (failed : peer.doClose qd = (after, .error fail)) :
    peer.Unchanged after ↔ peer.Restored (.close qd) := by
  unfold doClose at failed
  unfold Restored
  dsimp only
  have erased {socket : Option SocketAddrV4} (found : peer.sockets.lookup qd = some socket)
      (bound : Table SocketAddrV4 (Udp.SharedQueue SharedQueueSlot)) :
      ¬ peer.Unchanged { peer with sockets := peer.sockets.erase qd, bound } := by
    intro unchanged
    have gone := unchanged.sockets qd
    rw [AList.lookup_erase, found] at gone
    cases gone
  split at failed
  · rename_i absent
    obtain ⟨rfl, -⟩ := Prod.mk.inj failed
    exact iff_of_true (.refl _) absent
  · rename_i socket found
    have present : peer.sockets.lookup qd ≠ none := by
      rw [found]
      exact Option.some_ne_none _
    dsimp only at failed
    split at failed
    · obtain ⟨rfl, -⟩ := Prod.mk.inj failed
      exact iff_of_false (erased found _) present
    · split at failed
      · cases failed
      · obtain ⟨rfl, -⟩ := Prod.mk.inj failed
        exact iff_of_false (erased found _) present

end UdpPeer

/-! ## Both -/

/-- A control operation that fails leaves the tables, the migration port and the free
ports as they were exactly under the stated conditions.

Proof: one equivalence for each call, from the outcomes of the call that fail. They
differ in what has been done before the failing check, and `Restored` excludes those in
which something has been. -/
theorem failed_controls_restore_iff (profile : Profile) :
    (∀ (inner after : Inner κ ρ) (call : ControlCall) (fail : Fail),
      inner.control profile call = .ok (after, .error fail) →
        (inner.Unchanged after ↔ inner.Restored call)) ∧
    (∀ (peer after : UdpPeer) (call : UdpControlCall) (fail : Fail),
      peer.control call = (after, .error fail) → (peer.Unchanged after ↔ peer.Restored call)) := by
  constructor
  · intro inner after call fail failed
    cases call with
    | bind qd addr => exact Inner.bind_restored_iff (Except.ok.inj failed)
    | listen qd backlog =>
      rw [Inner.listen_failed (Except.ok.inj failed)]
      exact iff_of_true (.refl _) trivial
    | connect digest qd remote => exact Inner.connect_restored_iff failed
    | close env qd => exact Inner.doClose_restored_iff failed
  · intro peer after call fail failed
    cases call with
    | bind qd addr => exact UdpPeer.doBind_restored_iff failed
    | close qd => exact UdpPeer.doClose_restored_iff failed

/-- A `bind` that is refused because the socket is bound has drawn a port, and gives it back:
for TCP the second one of two such calls leaves everything as it was, since the first one has
moved the migration port already, and for UDP each one does. -/
theorem refused_bind_restores :
    (∃ past inner after, (Inner.sample 0x0a000001#32).execute .dev
        [.socket 1, .bind 1 ⟨0x0a000001#32, 80⟩, .bind 1 ⟨0x0a000001#32, 50001⟩] =
          .ok (past, inner) ∧
      inner.control .dev (.bind 1 ⟨0x0a000001#32, 50001⟩) =
        .ok (after, .error ⟨.EINVAL, "socket is already bound to an address"⟩) ∧
      inner.Unchanged after) ∧
    ∃ created bound after, (UdpPeer.new ⟨[50000, 50001]⟩).doSocket 1 = (created, .ok ()) ∧
      created.doBind 1 ⟨0x0a000001#32, 80⟩ = (bound, .ok ()) ∧
      bound.control (.bind 1 ⟨0x0a000001#32, 50001⟩) =
        (after, .error ⟨.EBADF, "invalid queue descriptor"⟩) ∧
      bound.Unchanged after := by
  obtain ⟨tcp, udp⟩ := @failed_controls_restore_iff NoCongestionControl IntegerRto _ _ .dev
  refine ⟨⟨_, _, _, rfl, rfl, (tcp _ _ (.bind 1 ⟨0x0a000001#32, 50001⟩) _ rfl).mpr (.inr ?_)⟩,
    ⟨_, _, _, rfl, rfl, rfl, (udp _ _ (.bind 1 ⟨0x0a000001#32, 50001⟩) _ rfl).mpr (.inr ?_)⟩⟩
  · exact ⟨rfl, fun _ => .inl rfl⟩
  · exact ⟨nofun, fun _ => .inl rfl⟩

/-- A socket that is not connected is gone although closing it has failed; a second `bind`
of a socket has failed and moved the migration port. -/
theorem failed_controls_change :
    (∃ past inner after fail, (Inner.sample 0x0a000001#32).execute .dev (listenOperations 1 80) =
        .ok (past, inner) ∧
      inner.control .dev (.close (.sample 0) 1) = .ok (after, .error fail) ∧
      ¬ inner.Unchanged after) ∧
    ∃ past inner after fail, (Inner.sample 0x0a000001#32).execute .dev (listenOperations 1 80) =
        .ok (past, inner) ∧
      inner.control .dev (.bind 1 ⟨0x0a000001#32, 81⟩) = .ok (after, .error fail) ∧
      ¬ inner.Unchanged after := by
  refine ⟨⟨_, _, _, _, rfl, rfl, fun unchanged => ?_⟩, ⟨_, _, _, _, rfl, rfl, fun unchanged => ?_⟩⟩
  · cases unchanged.sockets 1
  · cases unchanged.migrationPort

end Capybara
