import Mathlib.Data.BitVec

/-!
# Build profiles, faults and checked machine arithmetic

`Cargo.toml` builds the stack in two profiles. The development profile keeps
debug assertions and overflow checks; the release profile drops both, aborts on
panic and lets unsigned arithmetic wrap. Every modelled function takes the
profile, and a computation that panics, or that never returns, ends in the fault
that names the place. Unsigned 32-bit values are natural numbers below `2 ^ 32`,
with wrapping written out.

Times are natural numbers of nanoseconds. Link and network addresses are opaque
to the transport and stay plain bit vectors.
-/

namespace Capybara

/-- The two build profiles of `Cargo.toml`. -/
inductive Profile where
  | dev
  | release
  deriving DecidableEq, Repr

/-- `debug-assertions` and `overflow-checks`, on together in `dev` and off
together in `release`. -/
def Profile.checks : Profile → Bool
  | .dev => true
  | .release => false

/-- The places where a modelled function can panic, plus the one loop that may
never return. The constructors are named after what fails there. -/
inductive Fault where
  /-- An unsigned operation outside its range, with overflow checks on. -/
  | arithmeticOverflow
  /-- `DataBuffer::adjust`: "adjusting past end of buffer". -/
  | adjustPastEnd
  /-- `DataBuffer::trim`: "trimming past beginning of buffer". -/
  | trimPastBeginning
  /-- `get_receive_window_size`: more is unread than the buffer holds, with
  overflow checks on. -/
  | receiveWindowUnderflow
  /-- `hdr_window_size`: "Window size overflow". -/
  | windowSizeOverflow
  /-- `receive`: `receive_next <= seg_start && seg_end < after_receive_window`. -/
  | segmentOutsideWindow
  /-- `receive`: `seg_len` differs from `data.len()` on the out-of-order path. -/
  | segmentLengthMismatch
  /-- `store_out_of_order_segment`: `stored_len` is zero. -/
  | emptyStoredSegment
  /-- `receive_data`: `seg_start` differs from `receive_next`. -/
  | segmentNotInOrder
  /-- `receive`: "Bad TCP state" while processing a FIN. -/
  | badTcpState
  /-- `remove_acknowledged_data`: the end-of-send marker is not the last number. -/
  | finNotLast
  /-- `remove_acknowledged_data`: bytes remain but no segment does. -/
  | unackedQueueEmpty
  /-- `remove_acknowledged_data` without assertions: the loop keeps popping an
  empty queue and never returns. -/
  | neverReturns
  /-- `emit`: the header carries no acknowledgement. -/
  | emitWithoutAck
  /-- `close`: the connection is neither established nor in close-wait. -/
  | closeInBadState
  /-- `close`: "send failed". -/
  | sendFailed
  /-- `sender`: "No unsent data?" before a window probe. -/
  | noUnsentData
  /-- `sender`: "no buffer in unsent queue". -/
  | noBufferInUnsentQueue
  /-- `sender`: "No unsent data with sequence number gap?". -/
  | unsentGap
  /-- `sender`: an end-of-send marker although the user has not closed. -/
  | finBeforeClose
  /-- A slice or an index reaches past the end of a byte slice. -/
  | sliceOutOfRange
  /-- `serialize_into` of a deque: "deque len too big". -/
  | dequeTooBig
  /-- `serialize_into` of a buffer: "buffer len too big". -/
  | bufferTooBig
  /-- `SenderState::from`: "MSS too big". -/
  | mssTooBig
  /-- `deserialize_from` of an option: "invalid Option discriminant". -/
  | invalidDiscriminant
  /-- `StatsHandle::enable`: "Enabling already enabled stat". -/
  | enablingEnabledStat
  /-- `Vec::reserve`: "capacity overflow". -/
  | capacityOverflow
  /-- `DataBuffer::new`: "zero-capacity buffer", unwrapped. -/
  | zeroCapacityBuffer
  /-- `ActiveMigration::process_packet`: "no qd on origin side". -/
  | noQdOnOriginSide
  /-- `ActiveMigration::process_packet`: "Target should not receive a packet after
  rejecting origin." -/
  | packetAfterReject
  /-- `ActiveMigration::process_packet`: "Heartbeat is not an active migration". -/
  | heartbeatNotMigration
  /-- `ActiveMigration::initiate_migration`: something has been sent already. -/
  | alreadyInitiated
  /-- `ActiveMigration::send_connection_state`: the migration is not being prepared. -/
  | notBeingPrepared
  /-- `ActiveMigration::send`: "TcpState too large". -/
  | stateTooLarge
  /-- `TcpMigPeer::receive`: "no such active migration". -/
  | noSuchActiveMigration
  /-- `TcpMigPeer::receive`: "heartbeat not handled earlier". -/
  | heartbeatNotHandledEarlier
  /-- `TcpMigPeer::receive`: "ReturnedBySwitch returned by active migration". -/
  | returnedByActiveMigration
  /-- `TcpMigPeer::initiate_migration`: "duplicate initiate migration". -/
  | duplicateInitiateMigration
  /-- `TcpMigPeer::send_tcp_state`: no record for the client, unwrapped. -/
  | noRecordForState
  /-- `ReadySockets::push_ok`: a connection with the client is ready already. -/
  | endpointAlreadyReady
  /-- `ReadySockets::poll`: the client of a ready connection is not registered. -/
  | endpointNotReady
  /-- A handshake: "TODO: Window size overflow". -/
  | handshakeWindowOverflow
  /-- `ActiveOpenSocket::receive`: a window scale above 14. -/
  | windowScaleTooBig
  /-- `ActiveOpenSocket::receive`: "TODO: Clean up ARP query control flow". -/
  | arpQueryControlFlow
  /-- `TcpPeer::poll_accept`: "sockets/local inconsistency". -/
  | socketsLocalInconsistency
  /-- `TcpPeer::poll_accept`: "duplicate queue descriptor in sockets table". -/
  | duplicateSocket
  /-- `TcpPeer::poll_accept`: "duplicate entry in qds table". -/
  | duplicateQdsEntry
  /-- `TcpPeer::poll_accept`: "duplicate queue descriptor in established sockets table". -/
  | duplicateEstablished
  /-- `Inner::poll_connect_finished`: an established socket was replaced. -/
  | establishedReplaced
  /-- `migrate_out_connection`: "invalid QD for migrating out". -/
  | invalidQdForMigratingOut
  /-- `migrate_out_connection`: "invalid socket type for migrating out". -/
  | invalidSocketTypeForMigratingOut
  /-- `migrate_out_connection`: the connection is not in `qds`, unwrapped. -/
  | noQdsEntry
  /-- `migrate_out_connection`: "inconsistency between `sockets` and `established`". -/
  | socketsEstablishedInconsistency
  /-- `initiate_migration_by_addr`: "no QD found for connection". -/
  | noQdFoundForConnection
  /-- `initiate_migration_by_addr` and `initiate_migration_by_qd`: "connection not in
  established table". -/
  | notInEstablishedTable
  /-- `receive_tcpmig`: "migration rejected for non-existent connection". -/
  | rejectedNonExistentConnection
  /-- `register_application_state` and `get_migrated_application_state`: "unsupported
  socket variant for migration" or "socket does not exist". -/
  | noSocketForApplicationState
  /-- `tcp_checksum`: the header length is odd. -/
  | oddHeaderLength
  /-- A slot of a raw array is read that has never been written, which is undefined. -/
  | uninitialisedRead
  /-- `do_wait_link_addr`: "Dropped waiter?". -/
  | droppedWaiter
  /-- `HashTtlCache`: a time to live that is not positive. -/
  | zeroTtl
  /-- `advance_clock`: the new time lies before the clock. -/
  | clockBackwards
  /-- `Inner::receive` of the switch: "MAC of this BE is not cached". -/
  | backendNotCached
  /-- `Inner::receive` of the switch: "duplicate queue descriptor in established sockets
  table". -/
  | duplicateClient
  /-- `Inner::receive` of the switch: "Both src and dst are matching in migration
  directory". -/
  | bothMatching
  /-- `Inner::receive` of the switch: "No matching entry in migration_directory". -/
  | noMatchingEntry
  /-- A remainder by zero. -/
  | divisionByZero
  /-- `HashTtlCache::cleanup`: a dead entry is not in the map, unwrapped. -/
  | deadEntryMissing
  /-- `TcpMigHeader::checksum`: "unreachable!" for a remainder of two bytes. -/
  | longRemainder
  /-- `RefCell::borrow_mut` and `RefCell::borrow`: "already borrowed". -/
  | alreadyBorrowed
  /-- An intrusive container refers to a node that is gone, which is undefined. -/
  | danglingNode
  /-- `WatchFuture::drop`: "Future could not be removed from wait queue". -/
  | notInWaitQueue
  /-- `PairingHeap::remove`: the node is not in the heap, which is undefined. -/
  | notInHeap
  /-- `WaitFuture::poll`: "Polled future after completion". -/
  | polledAfterCompletion
  deriving DecidableEq, Repr

/-- A computation that returns a value or ends in a fault. -/
abbrev Checked := Except Fault

/-- `debug_assert!`: evaluated only when the profile keeps assertions. -/
def debugAssert (profile : Profile) (holds : Bool) (fault : Fault) : Checked Unit :=
  if profile.checks && !holds then .error fault else .ok ()

/-- `a - b` on `u32`. -/
def subU32 (profile : Profile) (a b : Nat) : Checked Nat :=
  if b ≤ a then .ok (a - b)
  else if profile.checks then .error .arithmeticOverflow
  else .ok (a + 2 ^ 32 - b)

/-- `a + b` on `u32`. -/
def addU32 (profile : Profile) (a b : Nat) : Checked Nat :=
  if a + b < 2 ^ 32 then .ok (a + b)
  else if profile.checks then .error .arithmeticOverflow
  else .ok ((a + b) % 2 ^ 32)

/-- `a << shift` on `u32`; an oversized shift is masked when unchecked. -/
def shlU32 (profile : Profile) (a shift : Nat) : Checked Nat :=
  if shift < 32 then .ok ((a <<< shift) % 2 ^ 32)
  else if profile.checks then .error .arithmeticOverflow
  else .ok ((a <<< (shift % 32)) % 2 ^ 32)

/-- `a >> shift` on `u32`. -/
def shrU32 (profile : Profile) (a shift : Nat) : Checked Nat :=
  if shift < 32 then .ok (a >>> shift)
  else if profile.checks then .error .arithmeticOverflow
  else .ok (a >>> (shift % 32))

/-- `a - b` on `usize`. -/
def subUsize (profile : Profile) (a b : Nat) : Checked Nat :=
  if b ≤ a then .ok (a - b)
  else if profile.checks then .error .arithmeticOverflow
  else .ok (a + 2 ^ 64 - b)

/-- `a + b` on `usize`. -/
def addUsize (profile : Profile) (a b : Nat) : Checked Nat :=
  if a + b < 2 ^ 64 then .ok (a + b)
  else if profile.checks then .error .arithmeticOverflow
  else .ok ((a + b) % 2 ^ 64)

/-- `a + b` on `u16`. -/
def addU16 (profile : Profile) (a b : Nat) : Checked Nat :=
  if a + b < 2 ^ 16 then .ok (a + b)
  else if profile.checks then .error .arithmeticOverflow
  else .ok ((a + b) % 2 ^ 16)

/-- `len as u32`. -/
def asU32 (length : Nat) : Nat := length % 2 ^ 32

/-- An assertion that holds passes in every profile. -/
@[simp] theorem debugAssert_true (profile : Profile) (fault : Fault) :
    debugAssert profile true fault = .ok () := by
  simp [debugAssert]

/-- A subtraction that stays above zero is exact. -/
theorem subU32_of_le (profile : Profile) {a b : Nat} (ordered : b ≤ a) :
    subU32 profile a b = .ok (a - b) := by
  simp [subU32, ordered]

/-- An addition that stays below 2^32 is exact. -/
theorem addU32_of_lt (profile : Profile) {a b : Nat} (fits : a + b < 2 ^ 32) :
    addU32 profile a b = .ok (a + b) := by
  simp only [addU32, if_pos fits]

/-- A sum that was computed is the wrapped one. -/
theorem addU32_ok {profile : Profile} {a b sum : Nat} (added : addU32 profile a b = .ok sum) :
    sum = (a + b) % 2 ^ 32 := by
  unfold addU32 at added
  split at added
  · rename_i fits
    cases added
    exact (Nat.mod_eq_of_lt fits).symm
  · split at added <;> cases added
    rfl

/-- A length below 2^32 is not cut. -/
theorem asU32_of_lt {length : Nat} (fits : length < 2 ^ 32) : asU32 length = length :=
  Nat.mod_eq_of_lt fits

/-- A successful sequence identifies the intermediate value. -/
theorem bind_ok {α β : Type} {first : Checked α} {next : α → Checked β} {result : β} :
    (first >>= next) = .ok result ↔ ∃ value, first = .ok value ∧ next value = .ok result := by
  cases first with
  | error fault => simp [bind, Except.bind]
  | ok value => simp [bind, Except.bind]

/-- A failed sequence failed first, or failed after an intermediate value. -/
theorem bind_error {α β : Type} {first : Checked α} {next : α → Checked β} {fault : Fault} :
    (first >>= next) = .error fault ↔
      first = .error fault ∨ ∃ value, first = .ok value ∧ next value = .error fault := by
  cases first with
  | error earlier => simp [bind, Except.bind]
  | ok value => simp [bind, Except.bind]

/-- A computation that was evaluated and checked has a value. -/
theorem any_ok {α : Type} {computation : Checked α} {check : α → Bool}
    (checked : computation.toOption.any check = true) :
    ∃ value, computation = .ok value ∧ check value = true := by
  cases computation with
  | error fault => cases checked
  | ok value => exact ⟨value, rfl, checked⟩

/-- The computation returns. -/
def Returns {α : Type} (computation : Checked α) : Prop := ∃ value, computation = .ok value

/-- A value is returned. -/
theorem Returns.ok {α : Type} (value : α) : Returns (.ok value) := ⟨value, rfl⟩

/-- A sequence returns if its parts do. -/
theorem Returns.bind {α β : Type} {first : Checked α} {next : α → Checked β} {value : α}
    (returned : first = .ok value) (further : Returns (next value)) : Returns (first >>= next) := by
  obtain ⟨result, reached⟩ := further
  exact ⟨result, bind_ok.mpr ⟨value, returned, reached⟩⟩

/-- The computation does not end in one of the given faults. -/
def Avoids {α : Type} (bad : Fault → Bool) (computation : Checked α) : Prop :=
  ∀ fault, computation = .error fault → bad fault = false

/-- A value is no fault. -/
theorem Avoids.ok {α : Type} {bad : Fault → Bool} (value : α) :
    Avoids bad (.ok value : Checked α) := by
  intro fault failed
  cases failed

/-- A fault that is not a bad one is allowed. -/
theorem Avoids.error {α : Type} {bad : Fault → Bool} {fault : Fault} (good : bad fault = false) :
    Avoids bad (.error fault : Checked α) := by
  intro fault' failed
  cases failed
  exact good

/-- What follows needs to avoid the bad faults only on values that are returned. -/
theorem Avoids.bind {α β : Type} {bad : Fault → Bool} {first : Checked α} {next : α → Checked β}
    (avoids : Avoids bad first) (further : ∀ value, first = .ok value → Avoids bad (next value)) :
    Avoids bad (first >>= next) := by
  intro fault failed
  obtain failed | ⟨value, reached, failed⟩ := bind_error.mp failed
  · exact avoids fault failed
  · exact further value reached fault failed

/-- An assertion fails with its own fault. -/
theorem Avoids.debugAssert {bad : Fault → Bool} (profile : Profile) (holds : Bool) {fault : Fault}
    (good : bad fault = false) : Avoids bad (debugAssert profile holds fault) := by
  unfold Capybara.debugAssert
  split
  · exact .error good
  · exact .ok ()

/-- A subtraction fails by underflow only. -/
theorem Avoids.subU32 {bad : Fault → Bool} (profile : Profile) (a b : Nat)
    (good : bad .arithmeticOverflow = false) : Avoids bad (subU32 profile a b) := by
  unfold Capybara.subU32
  split
  · exact .ok _
  split
  · exact .error good
  · exact .ok _

/-- An addition fails by overflow only. -/
theorem Avoids.addU32 {bad : Fault → Bool} (profile : Profile) (a b : Nat)
    (good : bad .arithmeticOverflow = false) : Avoids bad (addU32 profile a b) := by
  unfold Capybara.addU32
  split
  · exact .ok _
  split
  · exact .error good
  · exact .ok _

/-- A shift to the right fails by overflow only. -/
theorem Avoids.shrU32 {bad : Fault → Bool} (profile : Profile) (a shift : Nat)
    (good : bad .arithmeticOverflow = false) : Avoids bad (shrU32 profile a shift) := by
  unfold Capybara.shrU32
  split
  · exact .ok _
  split
  · exact .error good
  · exact .ok _

/-- A shift to the left fails by overflow only. -/
theorem Avoids.shlU32 {bad : Fault → Bool} (profile : Profile) (a shift : Nat)
    (good : bad .arithmeticOverflow = false) : Avoids bad (shlU32 profile a shift) := by
  unfold Capybara.shlU32
  split
  · exact .ok _
  split
  · exact .error good
  · exact .ok _

/-- The computation avoids the given faults, and what it returns has a property. -/
structure Ensures {α : Type} (bad : Fault → Bool) (post : α → Prop) (computation : Checked α) :
    Prop where
  avoids : Avoids bad computation
  returns : ∀ value, computation = .ok value → post value

namespace Ensures

variable {α β : Type} {bad : Fault → Bool} {post : α → Prop} {post' : β → Prop}

/-- A value that is as it should be is ensured. -/
theorem ok {value : α} (holds : post value) : Ensures bad post (.ok value) := by
  refine ⟨.ok value, fun returned same => ?_⟩
  cases same
  exact holds

/-- A fault that is not a bad one ensures everything. -/
theorem error {fault : Fault} (good : bad fault = false) : Ensures bad post (.error fault) := by
  refine ⟨.error good, fun returned same => ?_⟩
  cases same

/-- What follows may rely on what the first computation ensures. -/
theorem bind {first : Checked α} {next : α → Checked β} (ensures : Ensures bad post first)
    (further : ∀ value, post value → Ensures bad post' (next value)) :
    Ensures bad post' (first >>= next) := by
  constructor
  · exact .bind ensures.avoids fun value reached =>
      (further value (ensures.returns value reached)).avoids
  · intro result returned
    obtain ⟨value, reached, returned⟩ := bind_ok.mp returned
    exact (further value (ensures.returns value reached)).returns result returned

/-- Nothing needs to be known of the intermediate value. -/
theorem after {first : Checked α} {next : α → Checked β} (avoids : Avoids bad first)
    (further : ∀ value, Ensures bad post' (next value)) : Ensures bad post' (first >>= next) := by
  have anything : Ensures bad (fun _ => True) first := ⟨avoids, fun _ _ => trivial⟩
  exact anything.bind fun value _ => further value

end Ensures

/-- Points in time and lengths of time, in nanoseconds. -/
abbrev Instant := Nat
/-- A span of time, in nanoseconds. -/
abbrev Duration := Nat

/-- A link address. -/
abbrev MacAddress := BitVec 48
/-- An IPv4 address. -/
abbrev Ipv4Addr := BitVec 32

/-- `SocketAddrV4`. -/
structure SocketAddrV4 where
  ip : Ipv4Addr
  port : UInt16
  deriving DecidableEq, Repr

/-- The error numbers returned by the modelled calls. -/
inductive Errno where
  | EINVAL
  | EIO
  | EBUSY
  | EEXIST
  | EBADF
  | EBADMSG
  | EAGAIN
  | EALREADY
  | EISCONN
  | EINPROGRESS
  | ENOENT
  | ENOTCONN
  | ENOTSUP
  | EOPNOTSUPP
  | EADDRINUSE
  | EDESTADDRREQ
  | ECONNREFUSED
  | ETIMEDOUT
  | ETCPMIG
  deriving DecidableEq, Repr

/-- `Fail`: an error number with its cause. -/
structure Fail where
  errno : Errno
  cause : String
  deriving DecidableEq, Repr

/-- A task waker, known by the task it wakes. -/
abbrev Waker := Nat

/-- `QDesc`. -/
abbrev QDesc := Nat

end Capybara
