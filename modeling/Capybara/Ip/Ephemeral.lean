import Capybara.Runtime.Machine
import Mathlib.Data.List.Basic
import Mathlib.Data.List.Nodup

/-!
# Ephemeral ports

`ip/ephemeral.rs`: the pool of free ports that sockets without a port of their own
draw from. It is filled at random, so that its initial order is an input.
-/

namespace Capybara

/-- `EphemeralPorts`: the free ports, the next one last. -/
structure EphemeralPorts where
  ports : List UInt16
  deriving DecidableEq, Repr

namespace EphemeralPorts

/-- `FIRST_PRIVATE_PORT`. -/
def FIRST_PRIVATE_PORT : UInt16 := 49152

/-- `LAST_PRIVATE_PORT`. -/
def LAST_PRIVATE_PORT : UInt16 := 65535

/-- The ports that `new` starts from; the last private port is not one of them. -/
def offered : List UInt16 :=
  (List.range' FIRST_PRIVATE_PORT.toNat
    (LAST_PRIVATE_PORT.toNat - FIRST_PRIVATE_PORT.toNat)).map UInt16.ofNat

/-- `new`. `shuffled` is what the generator makes of the ports offered, and `coreId` the
number that `CORE_ID` is set to, if it is set. -/
def new (profile : Profile) (shuffled : List UInt16) (coreId : Option UInt16) :
    Checked EphemeralPorts :=
  match coreId with
  | none => .ok ⟨shuffled⟩
  | some id => do
    let port ← addU16 profile 9999 id.toNat
    .ok ⟨shuffled ++ [.ofNat port]⟩

/-- `is_private`. -/
def isPrivate (port : UInt16) : Bool := port ≥ FIRST_PRIVATE_PORT

/-- `alloc_any`. -/
def allocAny (free : EphemeralPorts) : Except Fail (UInt16 × EphemeralPorts) :=
  match free.ports.getLast? with
  | some port => .ok (port, ⟨free.ports.dropLast⟩)
  | none => .error
      ⟨.EADDRINUSE, "all port numbers in the ephemeral port range are currently in use"⟩

/-- `alloc_port`. -/
def allocPort (free : EphemeralPorts) (port : UInt16) : Except Fail EphemeralPorts :=
  if port ∉ free.ports then .error ⟨.ENOENT, "port number not found"⟩
  else .ok ⟨free.ports.filter (· ≠ port)⟩

/-- `free`. -/
def free (free : EphemeralPorts) (port : UInt16) : EphemeralPorts := ⟨free.ports ++ [port]⟩

/-- The ports offered are the private ones but the last. -/
theorem mem_offered (port : UInt16) :
    port ∈ offered ↔ isPrivate port = true ∧ port ≠ LAST_PRIVATE_PORT := by
  have first : FIRST_PRIVATE_PORT.toNat = 49152 := rfl
  have last : LAST_PRIVATE_PORT.toNat = 65535 := rfl
  have bound := port.toNat_lt
  unfold offered isPrivate
  rw [first, last, List.mem_map, decide_eq_true_eq, ge_iff_le, UInt16.le_iff_toNat_le, first,
    ne_eq, ← UInt16.toNat_inj, last]
  constructor
  · rintro ⟨number, member, rfl⟩
    rw [List.mem_range'_1] at member
    rw [UInt16.toNat_ofNat']
    omega
  · rintro ⟨above, below⟩
    refine ⟨port.toNat, ?_, UInt16.ofNat_toNat⟩
    rw [List.mem_range'_1]
    omega

/-- No port is offered twice. -/
theorem nodup_offered : offered.Nodup := by
  unfold offered
  refine (List.nodup_map_iff_inj_on (List.nodup_range')).mpr ?_
  have first : FIRST_PRIVATE_PORT.toNat = 49152 := rfl
  have last : LAST_PRIVATE_PORT.toNat = 65535 := rfl
  rw [first, last]
  intro number member number' member' same
  rw [List.mem_range'_1] at member member'
  have equal := congrArg UInt16.toNat same
  rw [UInt16.toNat_ofNat', UInt16.toNat_ofNat'] at equal
  omega

/-- A pool consists of the ports offered, in some order, and of the port of `CORE_ID`. -/
theorem new_ports {profile : Profile} {shuffled : List UInt16} {coreId : Option UInt16}
    {pool : EphemeralPorts} (created : new profile shuffled coreId = .ok pool) :
    coreId = none ∧ pool.ports = shuffled ∨ ∃ id port : UInt16, coreId = some id ∧
      port.toNat = (9999 + id.toNat) % 2 ^ 16 ∧ pool.ports = shuffled ++ [port] := by
  cases coreId with
  | none =>
    cases created
    exact .inl ⟨rfl, rfl⟩
  | some id =>
    obtain ⟨port, sum, created⟩ := bind_ok.mp created
    cases created
    refine .inr ⟨id, .ofNat port, rfl, ?_, rfl⟩
    rw [UInt16.toNat_ofNat']
    unfold addU16 at sum
    split at sum
    · cases sum
      rfl
    · split at sum
      · cases sum
      · cases sum
        exact Nat.mod_mod _ _

/-- A new pool has no port twice unless `CORE_ID` leads into the range of those offered. -/
theorem nodup_new_iff {profile : Profile} {shuffled : List UInt16} {coreId : Option UInt16}
    {pool : EphemeralPorts} (permuted : shuffled.Perm offered)
    (created : new profile shuffled coreId = .ok pool) :
    pool.ports.Nodup ↔ ∀ id, coreId = some id → ¬ (39153 ≤ id.toNat ∧ id.toNat < 55536) := by
  have nodup : shuffled.Nodup := permuted.nodup_iff.mpr nodup_offered
  obtain ⟨rfl, ports⟩ | ⟨id, port, rfl, sum, ports⟩ := new_ports created
  · rw [ports]
    refine iff_of_true nodup fun id found => ?_
    cases found
  · have inside : port ∈ offered ↔ 39153 ≤ id.toNat ∧ id.toNat < 55536 := by
      have bound := id.toNat_lt
      rw [mem_offered, isPrivate, decide_eq_true_eq, ge_iff_le, UInt16.le_iff_toNat_le, ne_eq,
        ← UInt16.toNat_inj, sum]
      change 49152 ≤ _ ∧ ¬ _ = 65535 ↔ _
      omega
    rw [ports, List.nodup_append_comm, List.singleton_append, List.nodup_cons, and_iff_left nodup,
      permuted.mem_iff, inside]
    constructor
    · intro outside other found
      cases found
      exact outside
    · intro outside
      exact outside id rfl

/-- A new pool has every private port exactly if `CORE_ID` leads to the last one. -/
theorem new_offers_iff {profile : Profile} {shuffled : List UInt16} {coreId : Option UInt16}
    {pool : EphemeralPorts} (permuted : shuffled.Perm offered)
    (created : new profile shuffled coreId = .ok pool) :
    (∀ port, isPrivate port = true → port ∈ pool.ports) ↔ coreId = some 55536 := by
  have last : ∀ port, isPrivate port = true → port ≠ LAST_PRIVATE_PORT → port ∈ shuffled :=
    fun port private_ other => permuted.mem_iff.mpr ((mem_offered port).mpr ⟨private_, other⟩)
  have absent : LAST_PRIVATE_PORT ∉ shuffled :=
    fun member => ((mem_offered _).mp (permuted.mem_iff.mp member)).2 rfl
  obtain ⟨rfl, ports⟩ | ⟨id, port, rfl, sum, ports⟩ := new_ports created
  · rw [ports]
    exact iff_of_false (fun offers => absent (offers _ rfl)) (Option.some_ne_none _).symm
  · have reached : port = LAST_PRIVATE_PORT ↔ id = 55536 := by
      have bound := id.toNat_lt
      rw [← UInt16.toNat_inj, ← UInt16.toNat_inj, sum]
      change _ = 65535 ↔ _ = 55536
      omega
    rw [ports, Option.some_inj, ← reached]
    constructor
    · intro offers
      have member := offers LAST_PRIVATE_PORT rfl
      rw [List.mem_append, List.mem_singleton, or_iff_right absent] at member
      exact member.symm
    · rintro rfl other private_
      rw [List.mem_append, List.mem_singleton]
      by_cases same : other = LAST_PRIVATE_PORT
      · exact .inr same
      · exact .inl (last other private_ same)

/-- A port can be allocated exactly when it is in the pool. -/
theorem allocPort_ok_iff (pool : EphemeralPorts) (port : UInt16) :
    (∃ taken, pool.allocPort port = .ok taken) ↔ port ∈ pool.ports := by
  unfold allocPort
  split
  · rename_i absent
    refine iff_of_false ?_ absent
    rintro ⟨taken, allocated⟩
    cases allocated
  · rename_i present
    exact iff_of_true ⟨_, rfl⟩ (not_not.mp present)

end EphemeralPorts

/-- Taking a port off the pool and giving it back leaves the same ports free. -/
theorem EphemeralPorts.mem_free_allocPort {free taken : EphemeralPorts} {port : UInt16}
    (allocated : free.allocPort port = .ok taken) (other : UInt16) :
    other ∈ (taken.free port).ports ↔ other ∈ free.ports := by
  unfold allocPort at allocated
  split at allocated
  · cases allocated
  rename_i present
  cases allocated
  simp only [EphemeralPorts.free, List.mem_append, List.mem_filter, List.mem_singleton,
    decide_eq_true_eq]
  by_cases same : other = port
  · simp [same, not_not.mp present]
  · simp [same]

/-- The last port of the pool is the one that is drawn. -/
theorem EphemeralPorts.allocAny_concat (ports : List UInt16) (port : UInt16) :
    (⟨ports ++ [port]⟩ : EphemeralPorts).allocAny = .ok (port, ⟨ports⟩) := by
  rw [allocAny, List.getLast?_concat, List.dropLast_concat]

/-- The next port is the last of the pool. -/
theorem EphemeralPorts.allocAny_ok {free taken : EphemeralPorts} {port : UInt16}
    (allocated : free.allocAny = .ok (port, taken)) : free.ports = taken.ports ++ [port] := by
  unfold allocAny at allocated
  split at allocated
  · rename_i last found
    cases allocated
    exact (List.dropLast_append_getLast? _ found).symm
  · cases allocated

end Capybara
