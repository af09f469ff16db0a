import Capybara.Lib.Pools
import Capybara.Tcp.FailedControls

/-!
# Local addresses and ports

Two mechanisms keep local addresses apart. `bind` compares the address it is given with
those of all sockets, before it chooses a port for port zero; the pool of free ports hands
out a private port once. They do not cover the same ports. The pool may hold one more port,
9999 above `CORE_ID`, which `bind` regards as any other number when it is named; the last
private port is never offered; and a port that a closed socket had does not come back.

A run of calls is shown to keep addresses and ports apart, and to keep every private port
allocatable that nobody holds, exactly as long as no call does one of these things.
-/

namespace Capybara

open Tables Pools Runs

variable {κ ρ : Type} [CongestionControl κ] [RtoCalculator ρ]

/-- The calls that make, bind, connect and close sockets. -/
def Operation.isControl : Operation → Bool
  | .socket _ | .bind _ _ | .listen _ _ | .connect _ _ _ | .close _ _ => true
  | _ => false

/-- The address of a socket that is bound but not yet connected. -/
def Socket.unconnected : Socket → Option SocketAddrV4
  | .inactive localAddr => localAddr
  | .listening localAddr => some localAddr
  | _ => none

namespace Inner

/-- The address that a descriptor is bound to. -/
def boundAt (inner : Inner κ ρ) (qd : QDesc) : Option SocketAddrV4 :=
  (inner.sockets.lookup qd).bind Socket.bound

/-- The port that a descriptor holds. -/
def portAt (inner : Inner κ ρ) (qd : QDesc) : Option UInt16 :=
  (inner.boundAt qd).map SocketAddrV4.port

/-- An open socket is bound to the port. -/
def Holds (inner : Inner κ ρ) (port : UInt16) : Prop := ∃ qd, inner.portAt qd = some port

/-- Unconnected sockets have different addresses, the pool has no port twice and none that
is held, and of the given private ports just those that nobody holds can be allocated. -/
structure Unshared (ports : UInt16 → Prop) (inner : Inner κ ρ) : Prop where
  addresses : ∀ qd qd' socket socket' addr, inner.sockets.lookup qd = some socket →
    inner.sockets.lookup qd' = some socket' → socket.unconnected = some addr →
    socket'.unconnected = some addr → qd = qd'
  nodup : inner.ephemeralPorts.ports.Nodup
  free : ∀ port ∈ inner.ephemeralPorts.ports, ¬ inner.Holds port
  allocatable : ∀ port, EphemeralPorts.isPrivate port = true → ports port →
    ((∃ taken, inner.ephemeralPorts.allocPort port = .ok taken) ↔ ¬ inner.Holds port)

/-- A call that neither names a port of the pool that is not private, for a socket that can
be bound, nor closes a socket that has a private port. -/
def KeepsPorts (inner : Inner κ ρ) : Operation → Prop
  | .bind qd addr => inner.sockets.lookup qd = some (.inactive none) → addr.port ≠ 0 →
      EphemeralPorts.isPrivate addr.port = false → addr.port ∉ inner.ephemeralPorts.ports
  | .close _ qd => ∀ port, inner.portAt qd = some port → EphemeralPorts.isPrivate port = false
  | _ => True

end Inner

namespace Inner

variable {profile : Profile} {inner after : Inner κ ρ} {offered : List UInt16}

/-! ## What a call does to the pool and the addresses -/

omit [CongestionControl κ] [RtoCalculator ρ] in
/-- A socket that is added is bound where it says. -/
theorem boundAt_insert {qd : QDesc} {socket : Socket}
    (inserted : after.sockets = inner.sockets.insert qd socket) :
    after.boundAt = Function.update inner.boundAt qd socket.bound := by
  funext other
  rw [boundAt, inserted, Table.lookup_insert_eq, Function.update_apply]
  split
  · rfl
  · rfl

omit [CongestionControl κ] [RtoCalculator ρ] in
/-- A socket that is removed is bound nowhere. -/
theorem boundAt_erase {qd : QDesc} (erased : after.sockets = inner.sockets.erase qd) :
    after.boundAt = Function.update inner.boundAt qd none := by
  funext other
  rw [boundAt, erased, Table.lookup_erase_eq, Function.update_apply]
  split
  · rfl
  · rfl

omit [CongestionControl κ] [RtoCalculator ρ] in
/-- A socket that keeps its address may be replaced. -/
theorem boundAt_replace {qd : QDesc} {old socket : Socket}
    (found : inner.sockets.lookup qd = some old)
    (inserted : after.sockets = inner.sockets.insert qd socket)
    (same : socket.bound = old.bound) : after.boundAt = inner.boundAt := by
  rw [boundAt_insert inserted, same, Function.update_eq_self_iff, boundAt, found]
  rfl

omit [CongestionControl κ] [RtoCalculator ρ] in
/-- The address of a socket that is there. -/
theorem boundAt_of_lookup {qd : QDesc} {socket : Socket}
    (found : inner.sockets.lookup qd = some socket) : inner.boundAt qd = socket.bound := by
  rw [boundAt, found]
  rfl

omit [CongestionControl κ] [RtoCalculator ρ] in
/-- The port of a socket is that of its address. -/
theorem portAt_update {qd : QDesc} {addr : Option SocketAddrV4}
    (updated : after.boundAt = Function.update inner.boundAt qd addr) :
    after.portAt = Function.update inner.portAt qd (addr.map SocketAddrV4.port) := by
  have same : ∀ inner : Inner κ ρ, inner.portAt = Option.map SocketAddrV4.port ∘ inner.boundAt :=
    fun _ => rfl
  rw [same after, same inner, updated, Function.comp_update]

omit [CongestionControl κ] [RtoCalculator ρ] in
/-- An address is taken exactly if a socket is bound to it. -/
theorem taken_iff (addr : SocketAddrV4) :
    inner.taken addr = true ↔ ∃ qd, inner.boundAt qd = some addr := by
  unfold taken boundAt
  rw [List.any_eq_true]
  constructor
  · rintro ⟨⟨qd, socket⟩, member, same⟩
    refine ⟨qd, ?_⟩
    rw [AList.mem_lookup_iff.mpr member]
    exact eq_of_beq same
  · rintro ⟨qd, same⟩
    obtain ⟨socket, found, bound⟩ := Option.bind_eq_some_iff.mp same
    exact ⟨⟨qd, socket⟩, AList.mem_lookup_iff.mp found, beq_iff_eq.mpr bound⟩

/-- What a call does to the free ports and to the addresses. -/
inductive Change (before after : Inner κ ρ) : Operation → Prop where
  | kept {operation : Operation}
      (pool : before.ephemeralPorts.ports.Perm after.ephemeralPorts.ports)
      (bound : after.boundAt = before.boundAt) : Change before after operation
  | drawn {operation : Operation} (qd : QDesc) (addr : SocketAddrV4)
      (unbound : before.boundAt qd = none)
      (pool : before.ephemeralPorts.ports.Perm (addr.port :: after.ephemeralPorts.ports))
      (bound : after.boundAt = Function.update before.boundAt qd (some addr)) :
      Change before after operation
  | named (qd : QDesc) (addr : SocketAddrV4)
      (unbound : before.sockets.lookup qd = some (.inactive none)) (nonzero : addr.port ≠ 0)
      (unmanaged : EphemeralPorts.isPrivate addr.port = false)
      (unused : ∀ other, before.boundAt other ≠ some addr)
      (pool : after.ephemeralPorts = before.ephemeralPorts)
      (bound : after.boundAt = Function.update before.boundAt qd (some addr)) :
      Change before after (.bind qd addr)
  | lost {operation : Operation} (port : UInt16)
      (unmanaged : EphemeralPorts.isPrivate port = false)
      (pool : before.ephemeralPorts.ports.Perm (port :: after.ephemeralPorts.ports))
      (bound : after.boundAt = before.boundAt) : Change before after operation
  | closed (env : Env) (qd : QDesc) (pool : after.ephemeralPorts = before.ephemeralPorts)
      (bound : after.boundAt = Function.update before.boundAt qd none) :
      Change before after (.close env qd)

/-- A private port that is allocated was in the pool once. -/
theorem perm_of_allocPort {free remaining : EphemeralPorts} {port : UInt16}
    (nodup : free.ports.Nodup) (allocated : free.allocPort port = .ok remaining) :
    free.ports.Perm (port :: remaining.ports) := by
  have present := (EphemeralPorts.allocPort_ok_iff free port).mp ⟨remaining, allocated⟩
  unfold EphemeralPorts.allocPort at allocated
  rw [if_neg (not_not.mpr present)] at allocated
  cases allocated
  have others : free.ports.filter (· ≠ port) = free.ports.erase port := by
    rw [nodup.erase_eq_filter]
    exact List.filter_congr fun other _ => Bool.eq_iff_iff.mpr (by simp)
  dsimp only
  rw [others]
  exact List.perm_cons_erase present

/-- Port zero asks for any port. -/
theorem allocate_zero (free : EphemeralPorts) : allocate free 0 = free.allocAny := rfl

/-- What an allocation does, up to the order of the pool. -/
theorem allocate_perm {free remaining : EphemeralPorts} {named port : UInt16}
    (nodup : free.ports.Nodup) (allocated : allocate free named = .ok (port, remaining)) :
    free.ports.Perm (port :: remaining.ports) ∨
      (EphemeralPorts.isPrivate named = false ∧ port = named ∧ named ≠ 0 ∧ remaining = free) := by
  obtain ⟨-, rfl, -, took⟩ | ⟨-, pool⟩ | named := allocate_ok allocated
  · exact .inl (perm_of_allocPort nodup took)
  · refine .inl ?_
    rw [pool]
    exact List.perm_append_singleton _ _
  · exact .inr named

omit [CongestionControl κ] [RtoCalculator ρ] in
/-- `do_socket` binds nothing and takes no port. -/
theorem doSocket_change (qd : QDesc) : Change inner (inner.doSocket qd).1 (.socket qd) := by
  unfold doSocket
  split
  · rename_i absent
    refine .kept (.refl _) ?_
    rw [@boundAt_insert _ _ inner _ _ _ rfl, Function.update_eq_self_iff, boundAt, absent]
    rfl
  · exact .kept (.refl _) rfl

omit [CongestionControl κ] [RtoCalculator ρ] in
/-- A `bind` that has succeeded gave the socket an unused address with an allocated port. -/
theorem bind_succeeded {qd : QDesc} {addr : SocketAddrV4}
    (bound : inner.bind qd addr = (after, .ok ())) :
    inner.taken addr = false ∧ inner.sockets.lookup qd = some (.inactive none) ∧
      ∃ port remaining, allocate inner.ephemeralPorts addr.port = .ok (port, remaining) ∧
        after.ephemeralPorts = remaining ∧
        after.sockets = inner.sockets.insert qd (.inactive (some { addr with port })) := by
  unfold bind at bound
  unfold taken
  split at bound
  · cases bound
  rename_i free
  refine ⟨Bool.eq_false_iff.mpr free, ?_⟩
  cases allocated : allocate inner.ephemeralPorts addr.port with
  | error fail =>
    rw [allocated] at bound
    cases bound
  | ok result =>
    obtain ⟨port, remaining⟩ := result
    rw [allocated] at bound
    dsimp only at bound
    split at bound
    · rename_i inactive
      obtain ⟨rfl, -⟩ := Prod.mk.inj bound
      exact ⟨inactive, port, remaining, rfl, rfl, rfl⟩
    · cases bound
    · cases bound

omit [CongestionControl κ] [RtoCalculator ρ] in
/-- A `bind` of an unbound socket to an unused address, with an allocated port, succeeds. -/
theorem bind_of_unbound {qd : QDesc} {addr : SocketAddrV4} (unused : inner.taken addr = false)
    {port : UInt16} {remaining : EphemeralPorts}
    (allocated : allocate inner.ephemeralPorts addr.port = .ok (port, remaining))
    (unbound : inner.sockets.lookup qd = some (.inactive none)) :
    inner.bind qd addr = ({ inner with
      ephemeralPorts := remaining
      tcpmig := inner.tcpmig.setPort port
      sockets := inner.sockets.insert qd (.inactive (some { addr with port })) }, .ok ()) := by
  unfold taken at unused
  unfold bind
  rw [if_neg (Bool.eq_false_iff.mp unused), allocated]
  dsimp only
  rw [unbound]

omit [CongestionControl κ] [RtoCalculator ρ] in
/-- A `bind` that has failed either did nothing or drew a port and gave a private one back. -/
theorem bind_failed_cases {qd : QDesc} {addr : SocketAddrV4} {fail : Fail}
    (failed : inner.bind qd addr = (after, .error fail)) :
    after = inner ∨ ∃ port remaining,
      allocate inner.ephemeralPorts addr.port = .ok (port, remaining) ∧
        after.ephemeralPorts = returned remaining port ∧ after.sockets = inner.sockets := by
  by_cases used : inner.taken addr = true
  · unfold bind at failed
    unfold taken at used
    rw [if_pos used] at failed
    exact .inl (Prod.mk.inj failed).1.symm
  cases allocated : allocate inner.ephemeralPorts addr.port with
  | error cause =>
    unfold bind at failed
    unfold taken at used
    rw [if_neg used, allocated] at failed
    exact .inl (Prod.mk.inj failed).1.symm
  | ok result =>
    obtain ⟨port, remaining⟩ := result
    obtain rfl := bind_failed failed (Bool.eq_false_iff.mpr used) allocated
    exact .inr ⟨port, remaining, rfl, rfl, rfl⟩

omit [CongestionControl κ] [RtoCalculator ρ] in
/-- `bind` binds an unbound socket to an unused address with a port from the pool or one that
the pool does not manage, or it fails and leaves the pool with the ports that it had. -/
theorem bind_change (nodup : inner.ephemeralPorts.ports.Nodup) (qd : QDesc)
    (addr : SocketAddrV4) : Change inner (inner.bind qd addr).1 (.bind qd addr) := by
  obtain ⟨⟨after, result⟩, bound⟩ : ∃ outcome, inner.bind qd addr = outcome := ⟨_, rfl⟩
  rw [bound]
  cases result with
  | ok =>
    obtain ⟨free, inactive, port, remaining, allocated, pool, sockets⟩ := bind_succeeded bound
    have unbound : inner.boundAt qd = none := boundAt_of_lookup inactive
    have updated := boundAt_insert sockets
    obtain drawn | ⟨unmanaged, rfl, nonzero, same⟩ := allocate_perm nodup allocated
    · refine .drawn qd { addr with port } unbound ?_ updated
      rw [pool]
      exact drawn
    · refine .named qd addr inactive nonzero unmanaged (fun other taken => ?_) (pool.trans same) updated
      rw [(taken_iff addr).mpr ⟨other, taken⟩] at free
      cases free
  | error fail =>
    obtain rfl | ⟨port, remaining, allocated, pool, sockets⟩ := bind_failed_cases bound
    · exact .kept (.refl _) rfl
    have same : after.boundAt = inner.boundAt := by
      funext other
      rw [boundAt, boundAt, sockets]
    unfold returned at pool
    by_cases isPrivate : EphemeralPorts.isPrivate port = true
    · rw [if_pos isPrivate] at pool
      obtain drawn | ⟨unmanaged, rfl, -, -⟩ := allocate_perm nodup allocated
      · refine .kept ?_ same
        rw [pool]
        exact drawn.trans (List.perm_append_singleton _ _).symm
      · rw [isPrivate] at unmanaged
        cases unmanaged
    · rw [if_neg isPrivate] at pool
      obtain drawn | ⟨-, -, -, rfl⟩ := allocate_perm nodup allocated
      · refine .lost port (Bool.eq_false_iff.mpr isPrivate) ?_ same
        rw [pool]
        exact drawn
      · refine .kept ?_ same
        rw [pool]

omit [CongestionControl κ] [RtoCalculator ρ] in
/-- `listen` leaves the address of the socket and the pool. -/
theorem listen_change (qd : QDesc) (backlog : Nat) :
    Change inner (inner.listen qd backlog).1 (.listen qd backlog) := by
  unfold listen
  split
  · rename_i localAddr inactive
    split
    · exact .kept (.refl _) rfl
    · exact .kept (.refl _) (boundAt_replace inactive rfl rfl)
  all_goals exact .kept (.refl _) rfl

omit [CongestionControl κ] [RtoCalculator ρ] in
/-- Once the local address is known, `connect` writes it down and leaves the pool alone. -/
theorem connectFrom_sockets {digest : UInt32} {qd : QDesc} {localAddr remote : SocketAddrV4}
    {outcome : Outcome κ ρ}
    (connected : inner.connectFrom profile digest qd localAddr remote = .ok outcome) :
    outcome.1.sockets = inner.sockets.insert qd (.connecting localAddr remote) ∧
      outcome.1.ephemeralPorts = inner.ephemeralPorts := by
  obtain ⟨⟨localIsn, isnGenerator⟩, -, connected⟩ := bind_ok.mp connected
  dsimp only at connected
  split at connected
  · cases connected
    exact ⟨rfl, rfl⟩
  · cases connected
    exact ⟨rfl, rfl⟩

omit [CongestionControl κ] [RtoCalculator ρ] in
/-- `connect` frees the address of a bound socket, and an unbound one takes a port out of the
pool. -/
theorem connect_change {digest : UInt32} {qd : QDesc} {remote : SocketAddrV4}
    {outcome : Outcome κ ρ} (connected : inner.connect profile digest qd remote = .ok outcome) :
    Change inner outcome.1 (.connect digest qd remote) := by
  unfold connect at connected
  split at connected
  · rename_i inactive
    split at connected
    · cases connected
      exact .kept (.refl _) rfl
    · rename_i port remaining drawn
      obtain ⟨sockets, pool⟩ := connectFrom_sockets connected
      refine .drawn qd ⟨inner.localIpv4Addr, port⟩ (boundAt_of_lookup inactive) ?_
        (boundAt_insert sockets)
      rw [pool, EphemeralPorts.allocAny_ok drawn]
      exact List.perm_append_singleton _ _
  · rename_i localAddr inactive
    obtain ⟨sockets, pool⟩ := connectFrom_sockets connected
    refine .kept ?_ (boundAt_replace inactive sockets rfl)
    rw [pool]
  all_goals
    cases connected
    exact .kept (.refl _) rfl

/-- `do_close` takes the address of its descriptor and leaves the pool alone. -/
theorem doClose_frees {env : Env} {qd : QDesc} {outcome : Outcome κ ρ}
    (closed : inner.doClose profile env qd = .ok outcome) :
    outcome.1.ephemeralPorts = inner.ephemeralPorts ∧
      outcome.1.boundAt = Function.update inner.boundAt qd none := by
  unfold doClose at closed
  dsimp only at closed
  split at closed
  · split at closed
    · obtain ⟨cb, -, closed⟩ := bind_ok.mp closed
      cases closed
      exact ⟨rfl, boundAt_erase rfl⟩
    · cases closed
      exact ⟨rfl, boundAt_erase rfl⟩
  · cases closed
    exact ⟨rfl, boundAt_erase rfl⟩
  · cases closed
    exact ⟨rfl, boundAt_erase rfl⟩

/-- Every call changes the pool and the addresses in one of these ways. -/
theorem step_change {operation : Operation} (control : operation.isControl = true)
    (nodup : inner.ephemeralPorts.ports.Nodup)
    (advanced : inner.step profile operation = .ok after) : Change inner after operation := by
  cases operation with
  | socket qd =>
    cases advanced
    exact doSocket_change qd
  | bind qd addr =>
    cases advanced
    exact bind_change nodup qd addr
  | listen qd backlog =>
    cases advanced
    exact listen_change qd backlog
  | connect digest qd remote =>
    obtain ⟨outcome, connected, advanced⟩ := bind_ok.mp advanced
    cases advanced
    exact connect_change connected
  | close env qd =>
    obtain ⟨outcome, closed, advanced⟩ := bind_ok.mp advanced
    cases advanced
    obtain ⟨pool, bound⟩ := doClose_frees closed
    exact .closed env qd pool bound
  | _ => cases control

end Inner

namespace Inner

variable {profile : Profile} {inner after : Inner κ ρ} {offered : List UInt16}

/-! ## What the calls keep -/

/-- The ports are accounted for, and no two sockets are bound to one address. -/
structure PortBooks (offered : List UInt16) (inner : Inner κ ρ) : Prop where
  books : Pools.Accounted (EphemeralPorts.isPrivate · = true) offered inner.ephemeralPorts.ports
    inner.portAt
  apart : ∀ qd qd' addr, inner.boundAt qd = some addr → inner.boundAt qd' = some addr → qd = qd'

omit [CongestionControl κ] [RtoCalculator ρ] in
/-- A bound socket has the port of its address. -/
theorem portAt_of_boundAt {qd : QDesc} {addr : SocketAddrV4}
    (bound : inner.boundAt qd = some addr) : inner.portAt qd = some addr.port := by
  rw [portAt, bound]
  rfl

omit [CongestionControl κ] [RtoCalculator ρ] in
/-- An address that no other socket has may be given to a socket without one. -/
theorem apart_update (apart : ∀ qd qd' addr, inner.boundAt qd = some addr →
      inner.boundAt qd' = some addr → qd = qd') {qd : QDesc} {addr : SocketAddrV4}
    (unused : ∀ other, inner.boundAt other ≠ some addr)
    (bound : after.boundAt = Function.update inner.boundAt qd (some addr)) :
    ∀ qd qd' addr, after.boundAt qd = some addr → after.boundAt qd' = some addr → qd = qd' := by
  intro first second taken has has'
  rw [bound, Function.update_apply] at has has'
  split at has <;> split at has'
  · rename_i first_eq second_eq
    rw [first_eq, second_eq]
  · cases has
    exact absurd has' (unused second)
  · cases has'
    exact absurd has (unused first)
  · exact apart first second taken has has'

omit [CongestionControl κ] [RtoCalculator ρ] in
/-- A call that keeps the ports keeps the books. -/
theorem PortBooks.change {operation : Operation} (holds : inner.PortBooks offered)
    (change : Change inner after operation) (keeps : inner.KeepsPorts operation) :
    after.PortBooks offered := by
  obtain ⟨books, apart⟩ := holds
  cases change with
  | kept pool bound =>
    have ports : after.portAt = inner.portAt := by
      funext qd
      rw [portAt, bound, portAt]
    refine ⟨?_, ?_⟩
    · rw [ports]
      exact books.perm pool
    · rw [bound]
      exact apart
  | drawn qd addr unbound pool bound =>
    have drawn := books.perm pool
    have idle : inner.portAt qd = none := by
      rw [portAt, unbound]
      rfl
    refine ⟨?_, apart_update apart (fun other used => ?_) bound⟩
    · rw [portAt_update bound]
      exact drawn.assign idle
    · exact drawn.apart other addr.port (portAt_of_boundAt used) List.mem_cons_self
  | named qd addr unbound nonzero unmanaged unused pool bound =>
    have idle : inner.portAt qd = none := by
      rw [portAt, boundAt_of_lookup unbound]
      rfl
    refine ⟨?_, apart_update apart unused bound⟩
    rw [portAt_update bound, pool]
    exact books.name idle (Bool.eq_false_iff.mp unmanaged) (keeps unbound nonzero unmanaged)
  | lost port unmanaged pool bound =>
    have ports : after.portAt = inner.portAt := by
      funext qd
      rw [portAt, bound, portAt]
    refine ⟨?_, ?_⟩
    · rw [ports]
      exact (books.perm pool).drop (Bool.eq_false_iff.mp unmanaged)
    · rw [bound]
      exact apart
  | closed env qd pool bound =>
    refine ⟨?_, ?_⟩
    · rw [portAt_update bound, pool]
      exact books.release fun port has => Bool.eq_false_iff.mp (keeps port has)
    · rw [bound]
      intro first second taken has has'
      rw [Function.update_apply] at has has'
      split at has
      · cases has
      · split at has'
        · cases has'
        · exact apart first second taken has has'

omit [CongestionControl κ] [RtoCalculator ρ] in
/-- Books that are kept say what is claimed of the ports that were offered. -/
theorem PortBooks.unshared {ports : UInt16 → Prop} (holds : inner.PortBooks offered)
    (offers : ∀ port, EphemeralPorts.isPrivate port = true → ports port → port ∈ offered) :
    inner.Unshared ports where
  addresses qd qd' socket socket' addr found found' unconnected unconnected' := by
    have bound_of : ∀ socket : Socket, socket.unconnected = some addr → socket.bound = some addr := by
      intro socket has
      cases socket with
      | inactive localAddr => exact has
      | listening localAddr => exact has
      | _ => cases has
    exact holds.apart qd qd' addr ((boundAt_of_lookup found).trans (bound_of socket unconnected))
      ((boundAt_of_lookup found').trans (bound_of socket' unconnected'))
  nodup := holds.books.nodup
  free port member := by
    rintro ⟨qd, has⟩
    exact holds.books.apart qd port has member
  allocatable port isPrivate asked := by
    rw [EphemeralPorts.allocPort_ok_iff, holds.books.free_iff isPrivate, Holds, not_exists]
    exact and_iff_right (offers port isPrivate asked)

omit [CongestionControl κ] [RtoCalculator ρ] in
/-- Naming a free port that is not private for a socket that can be bound shares the port. -/
theorem PortBooks.shares {ports : UInt16 → Prop} (holds : inner.PortBooks offered)
    {qd : QDesc} {addr : SocketAddrV4} (unbound : inner.sockets.lookup qd = some (.inactive none))
    (nonzero : addr.port ≠ 0) (unmanaged : EphemeralPorts.isPrivate addr.port = false)
    (free : addr.port ∈ inner.ephemeralPorts.ports) :
    ¬ (inner.bind qd addr).1.Unshared ports := by
  have unused : inner.taken addr = false := by
    refine Bool.eq_false_iff.mpr fun used => ?_
    obtain ⟨other, has⟩ := (taken_iff addr).mp used
    exact holds.books.apart other addr.port (portAt_of_boundAt has) free
  have allocated : allocate inner.ephemeralPorts addr.port = .ok (addr.port, inner.ephemeralPorts) := by
    rw [allocate, if_neg (Bool.eq_false_iff.mp unmanaged)]
    exact if_neg nonzero
  rw [bind_of_unbound unused allocated unbound]
  intro unshared
  refine unshared.free addr.port free ⟨qd, ?_⟩
  rw [portAt, boundAt, AList.lookup_insert]
  rfl

/-- Closing a socket that has a private port loses the port. -/
theorem PortBooks.loses {ports : UInt16 → Prop} (holds : inner.PortBooks offered)
    (asks : ∀ port ∈ offered, ports port) {env : Env} {qd : QDesc} {outcome : Outcome κ ρ}
    (closed : inner.doClose profile env qd = .ok outcome) {port : UInt16}
    (has : inner.portAt qd = some port) (isPrivate : EphemeralPorts.isPrivate port = true) :
    ¬ outcome.1.Unshared ports := by
  obtain ⟨member, notFree, unheld⟩ := holds.books.lost has isPrivate
  obtain ⟨pool, bound⟩ : outcome.1.ephemeralPorts = inner.ephemeralPorts ∧
      outcome.1.boundAt = Function.update inner.boundAt qd none := doClose_frees closed
  intro unshared
  have allocatable := unshared.allocatable port isPrivate (asks port member)
  rw [EphemeralPorts.allocPort_ok_iff, pool] at allocatable
  refine notFree (allocatable.mpr ?_)
  rintro ⟨other, holds'⟩
  rw [portAt_update bound] at holds'
  exact unheld other holds'

/-- A call that does not keep the ports breaks what is claimed. -/
theorem PortBooks.broken {ports : UInt16 → Prop} (holds : inner.PortBooks offered)
    (asks : ∀ port ∈ offered, ports port) {operation : Operation}
    (advanced : inner.step profile operation = .ok after) (breaks : ¬ inner.KeepsPorts operation) :
    ¬ after.Unshared ports := by
  cases operation with
  | bind qd addr =>
    cases advanced
    unfold KeepsPorts at breaks
    push Not at breaks
    obtain ⟨unbound, nonzero, unmanaged, free⟩ := breaks
    exact holds.shares unbound nonzero unmanaged free
  | close env qd =>
    obtain ⟨outcome, closed, advanced⟩ := bind_ok.mp advanced
    cases advanced
    unfold KeepsPorts at breaks
    push Not at breaks
    obtain ⟨port, has, isPrivate⟩ := breaks
    exact holds.loses asks closed has (Bool.not_eq_false _ ▸ isPrivate)
  | _ => exact absurd trivial breaks

/-! ## The pool at the start -/

omit [CongestionControl κ] [RtoCalculator ρ] in
/-- A new peer holds no port. -/
theorem portAt_new (pool : EphemeralPorts) (linkAddr : MacAddress) (ip : Ipv4Addr)
    (config : TcpConfig) (qd : QDesc) : (new pool linkAddr ip config : Inner κ ρ).portAt qd = none :=
  rfl

omit [CongestionControl κ] [RtoCalculator ρ] in
/-- A peer without sockets depends on its pool only. -/
theorem unshared_new_iff (ports : UInt16 → Prop) (pool : EphemeralPorts) (linkAddr : MacAddress)
    (ip : Ipv4Addr) (config : TcpConfig) :
    (new pool linkAddr ip config : Inner κ ρ).Unshared ports ↔ pool.ports.Nodup ∧
      ∀ port, EphemeralPorts.isPrivate port = true → ports port → port ∈ pool.ports := by
  have unheld : ∀ port, ¬ (new pool linkAddr ip config : Inner κ ρ).Holds port := by
    rintro port ⟨qd, has⟩
    cases has
  constructor
  · intro unshared
    refine ⟨unshared.nodup, fun port isPrivate asked => ?_⟩
    have allocatable := unshared.allocatable port isPrivate asked
    rw [EphemeralPorts.allocPort_ok_iff] at allocatable
    exact allocatable.mpr (unheld port)
  · rintro ⟨nodup, offers⟩
    refine ⟨fun qd qd' socket socket' addr found => ?_, nodup, fun port _ => unheld port,
      fun port isPrivate asked => ?_⟩
    · cases found
    · rw [EphemeralPorts.allocPort_ok_iff]
      exact iff_of_true (offers port isPrivate asked) (unheld port)

omit [CongestionControl κ] [RtoCalculator ρ] in
/-- The books of a new peer are right if its pool offers no port twice. -/
theorem PortBooks.new {pool : EphemeralPorts} (nodup : pool.ports.Nodup) (linkAddr : MacAddress)
    (ip : Ipv4Addr) (config : TcpConfig) :
    (Inner.new pool linkAddr ip config : Inner κ ρ).PortBooks pool.ports where
  books := .initial nodup (portAt_new pool linkAddr ip config)
  apart qd qd' addr has := by cases has

end Inner

/-! ## Whole runs -/

/-- In a run of calls, addresses and ports are kept apart, and the private ports that nobody
holds can be allocated, exactly if no call names the free port of `CORE_ID` for a socket that
can be bound and none closes a socket with a private port, and the pool was right at first:
for all private ports it must be that `CORE_ID` adds the one that is not offered, for those
that the pool began with only that `CORE_ID` adds none of them again.

Proof: the rule for runs that keep a property exactly under a condition. The books of
the ports are right as long as every call keeps them; a call that does not leaves a port
that is held twice, or lost for good. The pool that `new` creates is examined on its
own. -/
theorem Inner.unshared_throughout_iff (profile : Profile) {shuffled : List UInt16}
    {coreId : Option UInt16} {pool : EphemeralPorts} (linkAddr : MacAddress) (ip : Ipv4Addr)
    (config : TcpConfig) (permuted : shuffled.Perm EphemeralPorts.offered)
    (created : EphemeralPorts.new profile shuffled coreId = .ok pool)
    {past : List (Inner.Transition κ ρ)} {inner : Inner κ ρ}
    (run : Inner.Run profile (.new pool linkAddr ip config) past inner)
    (calls : Meets (fun _ operation => operation.isControl = true) past) :
    (Throughout (Unshared fun _ => True) (.new pool linkAddr ip config) past ↔
      coreId = some 55536 ∧ Meets KeepsPorts past) ∧
    (Throughout (Unshared (· ∈ pool.ports)) (.new pool linkAddr ip config) past ↔
      (∀ id, coreId = some id → ¬ (39153 ≤ id.toNat ∧ id.toNat < 55536)) ∧
        Meets KeepsPorts past) := by
  have exactly (ports : UInt16 → Prop) (asks : ∀ port ∈ pool.ports, ports port)
      (offers : pool.ports.Nodup → (Inner.new pool linkAddr ip config : Inner κ ρ).Unshared ports →
        ∀ port, EphemeralPorts.isPrivate port = true → ports port → port ∈ pool.ports) :
      Throughout (Unshared ports) (.new pool linkAddr ip config) past ↔
        (Inner.new pool linkAddr ip config : Inner κ ρ).Unshared ports ∧ Meets KeepsPorts past := by
    by_cases started : (Inner.new pool linkAddr ip config : Inner κ ρ).Unshared ports
    · have nodup := started.nodup
      refine throughout_iff (fun _ => PortBooks.new nodup linkAddr ip config)
        (fun state holds => holds.unshared (offers nodup started)) ?_ ?_ run calls
      · intro source operation target control holds advanced keeps
        exact holds.change (step_change control holds.books.nodup advanced) keeps
      · intro source operation target control holds advanced breaks
        exact holds.broken asks advanced breaks
    · exact iff_of_false (fun throughout => started throughout.1) fun both => started both.1
  constructor
  · rw [exactly _ (fun _ _ => trivial) fun _ unshared => ((unshared_new_iff _ _ _ _ _).mp unshared).2,
      unshared_new_iff, ← EphemeralPorts.new_offers_iff permuted created]
    refine and_congr_left fun _ => ?_
    constructor
    · rintro ⟨-, offers⟩ port isPrivate
      exact offers port isPrivate trivial
    · intro offers
      refine ⟨(EphemeralPorts.nodup_new_iff permuted created).mpr fun id found => ?_,
        fun port isPrivate _ => offers port isPrivate⟩
      rw [(EphemeralPorts.new_offers_iff permuted created).mp offers] at found
      cases found
      exact fun inside => absurd inside.2 (Nat.lt_irrefl _)
  · rw [exactly _ (fun _ => id) fun _ _ port _ member => member, unshared_new_iff,
      ← EphemeralPorts.nodup_new_iff permuted created]
    exact and_congr_left fun _ => and_iff_left fun port _ member => member

/-- With `CORE_ID` set to one, a socket listens on port 80, and another one that asks for any
port of any address is bound to port 10000. -/
theorem Inner.unshared_throughout_wildcard :
    ∃ pool past inner, EphemeralPorts.new .dev EphemeralPorts.offered (some 1) = .ok pool ∧
      Inner.Run .dev (.new pool 3#48 0x0a000001#32 .sample : Inner NoCongestionControl IntegerRto)
        past inner ∧
      inner.sockets.lookup 1 = some (.listening ⟨0x0a000001#32, 80⟩) ∧
      inner.sockets.lookup 2 = some (.inactive (some ⟨0#32, 10000⟩)) ∧
      Throughout (Unshared (· ∈ pool.ports)) (.new pool 3#48 0x0a000001#32 .sample) past := by
  have unmanaged : (80 : UInt16) ∉ EphemeralPorts.offered ++ [10000] := by
    rw [List.mem_append, List.mem_singleton, EphemeralPorts.mem_offered]
    decide
  have earlier : ∃ past inner, Inner.Run .dev (.new ⟨EphemeralPorts.offered ++ [10000]⟩ 3#48
        0x0a000001#32 .sample : Inner NoCongestionControl IntegerRto) past inner ∧
      Meets (fun _ operation => operation.isControl = true) past ∧ Meets KeepsPorts past ∧
      inner.ephemeralPorts = ⟨EphemeralPorts.offered ++ [10000]⟩ ∧
      inner.taken ⟨0#32, 0⟩ = false ∧
      inner.sockets.lookup 1 = some (.listening ⟨0x0a000001#32, 80⟩) ∧
      inner.sockets.lookup 2 = some (.inactive none) := by
    refine ⟨_, _, @run_of_execute _ _ _ _ _ (listenOperations 1 80 ++ [.socket 2]) _ _ _ _ .nil rfl,
      by decide, ?_, rfl, rfl, rfl, rfl⟩
    exact (meets_cons _ _ _).mpr ⟨trivial, (meets_cons _ _ _).mpr ⟨trivial,
      (meets_cons _ _ _).mpr ⟨fun _ _ _ => unmanaged, (meets_cons _ _ _).mpr ⟨trivial, meets_nil _⟩⟩⟩⟩
  obtain ⟨past, inner, run, calls, keeps, pool, unused, first, second⟩ := earlier
  have allocated : Inner.allocate inner.ephemeralPorts 0 =
      .ok (10000, ⟨EphemeralPorts.offered⟩) := by
    rw [pool, Inner.allocate_zero]
    exact EphemeralPorts.allocAny_concat _ _
  have bound := Inner.bind_of_unbound unused allocated second
  have created : EphemeralPorts.new .dev EphemeralPorts.offered (some 1) =
      .ok ⟨EphemeralPorts.offered ++ [10000]⟩ := rfl
  have run := Run.step (.bind 2 ⟨0#32, 0⟩) run rfl
  refine ⟨_, _, _, created, run, ?_, ?_, ?_⟩
  · show (inner.bind 2 ⟨0#32, 0⟩).1.sockets.lookup 1 = _
    rw [bound]
    exact (AList.lookup_insert_ne (by decide)).trans first
  · show (inner.bind 2 ⟨0#32, 0⟩).1.sockets.lookup 2 = _
    rw [bound]
    exact AList.lookup_insert _
  · refine (Inner.unshared_throughout_iff .dev 3#48 0x0a000001#32 .sample (.refl _) created run
      ((meets_cons _ _ _).mpr ⟨rfl, calls⟩)).2.mpr ⟨fun id found => ?_, ?_⟩
    · cases found
      decide
    · exact (meets_cons _ _ _).mpr ⟨fun _ nonzero => absurd rfl nonzero, keeps⟩

/-- With `CORE_ID` set to one, a socket is bound to 10.0.0.1:10000 by name, and the next one
that asks for any port of 10.0.0.1 gets the same address. -/
theorem Inner.local_address_shared :
    ∃ pool past inner, EphemeralPorts.new .dev EphemeralPorts.offered (some 1) = .ok pool ∧
      Inner.Run .dev (.new pool 3#48 0x0a000001#32 .sample :
        Inner NoCongestionControl IntegerRto) past inner ∧
      Meets (fun _ operation => operation.isControl = true) past ∧
      inner.sockets.lookup 1 = some (.inactive (some ⟨0x0a000001#32, 10000⟩)) ∧
      inner.sockets.lookup 2 = some (.inactive (some ⟨0x0a000001#32, 10000⟩)) ∧
      ¬ inner.Unshared fun _ => True := by
  have earlier : ∃ past inner, Inner.Run .dev (.new ⟨EphemeralPorts.offered ++ [10000]⟩ 3#48
        0x0a000001#32 .sample : Inner NoCongestionControl IntegerRto) past inner ∧
      Meets (fun _ operation => operation.isControl = true) past ∧
      inner.ephemeralPorts = ⟨EphemeralPorts.offered ++ [10000]⟩ ∧
      inner.taken ⟨0x0a000001#32, 0⟩ = false ∧
      inner.sockets.lookup 1 = some (.inactive (some ⟨0x0a000001#32, 10000⟩)) ∧
      inner.sockets.lookup 2 = some (.inactive none) :=
    ⟨_, _, @run_of_execute _ _ _ _ _ [.socket 1, .bind 1 ⟨0x0a000001#32, 10000⟩, .socket 2]
      _ _ _ _ .nil rfl, by decide, rfl, rfl, rfl, rfl⟩
  obtain ⟨past, inner, run, calls, pool, unused, first, second⟩ := earlier
  have allocated : Inner.allocate inner.ephemeralPorts 0 =
      .ok (10000, ⟨EphemeralPorts.offered⟩) := by
    rw [pool, Inner.allocate_zero]
    exact EphemeralPorts.allocAny_concat _ _
  have bound := Inner.bind_of_unbound unused allocated second
  have first' : (inner.bind 2 ⟨0x0a000001#32, 0⟩).1.sockets.lookup 1 =
      some (.inactive (some ⟨0x0a000001#32, 10000⟩)) := by
    rw [bound]
    exact (AList.lookup_insert_ne (by decide)).trans first
  have second' : (inner.bind 2 ⟨0x0a000001#32, 0⟩).1.sockets.lookup 2 =
      some (.inactive (some ⟨0x0a000001#32, 10000⟩)) := by
    rw [bound]
    exact AList.lookup_insert _
  refine ⟨_, _, _, rfl, .step (.bind 2 ⟨0x0a000001#32, 0⟩) run rfl,
    (meets_cons _ _ _).mpr ⟨rfl, calls⟩, first', second', fun unshared => ?_⟩
  exact absurd (unshared.addresses 1 2 _ _ _ first' second' rfl rfl) (by decide)

end Capybara
