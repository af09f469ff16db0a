import Capybara.Runtime.Buffer
import Capybara.Runtime.Machine
import Capybara.Scheduler.Scheduler

/-!
# Waiting for operations

`inetstack/mod.rs`, with the futures that `inetstack/futures` and the two transport
protocols hand to the scheduler. A queue token is the key of a task. A wait makes a handle
of each token in turn, takes the operation out of the scheduler if it has completed, and
otherwise takes back the key of the handle, which would cancel the task when it is dropped.

`poll_bg_work` may change the stack in any way, so a round of a wait is given by what it
does there and by whether the timeout has expired behind it.
-/

namespace Capybara

/-- `QToken`. -/
abbrev QToken := Nat

/-- `OperationResult`. -/
inductive OperationResult where
  | connect
  | accept (newQd : QDesc)
  | push
  | pop (addr : Option SocketAddrV4) (bytes : Buffer)
  | failed (fail : Fail)
  deriving DecidableEq, Repr

/-! ## The futures of operations -/

/-- `TcpOperation`. Each future has a `done` that is set when it completes. -/
inductive TcpOperation where
  | accept (qd newQd : QDesc) (done : Option (Except Fail QDesc))
  | connect (fd : QDesc) (done : Option (Except Fail Unit))
  | pop (fd : QDesc) (done : Option (Except Fail Buffer))
  | push (fd : QDesc) (done : Option (Except Fail Unit))

/-- `TcpOperation::expect_result`, or nothing where it panics: "Future not ready". -/
def TcpOperation.expectResult : TcpOperation → Option (QDesc × Option QDesc × OperationResult)
  | .connect fd (some (.ok ())) => some (fd, none, .connect)
  | .connect fd (some (.error fail)) => some (fd, none, .failed fail)
  | .accept qd future (some (.ok newQd)) => some (qd, some future, .accept newQd)
  | .accept qd future (some (.error fail)) => some (qd, some future, .failed fail)
  | .push fd (some (.ok ())) => some (fd, none, .push)
  | .push fd (some (.error fail)) => some (fd, none, .failed fail)
  | .pop fd (some (.ok bytes)) => some (fd, none, .pop none bytes)
  | .pop fd (some (.error fail)) => some (fd, none, .failed fail)
  | _ => none

/-- `UdpOperation`. -/
inductive UdpOperation where
  | pushto (fd : QDesc) (result : Except Fail Unit)
  | pop (qd : QDesc) (done : Option (Except Fail (SocketAddrV4 × Buffer)))

/-- `UdpOperation::get_result`, or nothing where it panics: "UDP Operation not ready". -/
def UdpOperation.getResult : UdpOperation → Option (QDesc × OperationResult)
  | .pushto fd (.ok ()) => some (fd, .push)
  | .pushto fd (.error fail) => some (fd, .failed fail)
  | .pop qd (some (.ok (addr, bytes))) => some (qd, .pop (some addr) bytes)
  | .pop qd (some (.error fail)) => some (qd, .failed fail)
  | .pop _ none => none

/-- `FutureOperation`. -/
inductive FutureOperation where
  | tcp (operation : TcpOperation)
  | udp (operation : UdpOperation)
  | background

/-! ## The calls to the scheduler -/

namespace Scheduler

/-- `from_raw_handle`: the scheduler with the new handle held, if the slot is occupied. -/
def fromRawHandle (key : Nat) (scheduler : Scheduler) : Except SchedulerFault (Option Scheduler) :=
  match scheduler.slab.get key with
  | none => .ok none
  | some _ =>
    if scheduler.pages.length ≤ key / 64 then .error .noPage
    else .ok (some { scheduler with handles := key :: scheduler.handles })

/-- `SchedulerHandle::has_completed`. -/
def hasCompleted (key : Nat) (scheduler : Scheduler) : Bool :=
  flag WakerPage.completed scheduler.pages key

/-- `SchedulerHandle::take_key`: dropping the handle has no effect any more. -/
def takeKey (key : Nat) (scheduler : Scheduler) : Scheduler :=
  { scheduler with handles := scheduler.handles.erase key }

end Scheduler

/-- The places where a wait panics. -/
inductive WaitFault where
  | scheduler (fault : SchedulerFault)
  /-- `take_operation`: the future has no result yet. -/
  | notReady
  /-- `take_operation`: the task is a background task. -/
  | backgroundTask
  /-- `qrs` or `indices` is indexed past its end. -/
  | pastEnd
  /-- `poll_bg_work` panics. -/
  | pollBgWork
  deriving DecidableEq, Repr

/-- The part of `InetStack` that a wait reads and changes: the scheduler with the future of
each task, and the entries of the file table. -/
structure InetStack where
  scheduler : Scheduler
  futures : Nat → FutureOperation
  fileTable : QDesc → Option UInt32

namespace InetStack

/-- `IoQueueTable::free`. -/
def free (qd : QDesc) (fileTable : QDesc → Option UInt32) : QDesc → Option UInt32 :=
  fun other => if other = qd then none else fileTable other

/-- `take_operation`: the queue descriptor with the result, and the stack. The queue
descriptor that was booked for a connection is released if the accept failed. -/
def takeOperation (qt : QToken) (stack : InetStack) :
    Except WaitFault ((QDesc × OperationResult) × InetStack) :=
  match stack.scheduler.take qt, stack.scheduler.slab.get qt with
  | .error fault, _ => .error (.scheduler fault)
  | .ok _, none => .error (.scheduler .takenTwice)
  | .ok scheduler, some task =>
    match stack.futures task with
    | .tcp operation =>
      match operation.expectResult with
      | none => .error .notReady
      | some (qd, newQd, qr) =>
        match newQd, qr with
        | some newQd, .failed _ =>
          .ok ((qd, qr), { stack with scheduler, fileTable := free newQd stack.fileTable })
        | _, _ => .ok ((qd, qr), { stack with scheduler })
    | .udp operation =>
      match operation.getResult with
      | none => .error .notReady
      | some reported => .ok (reported, { stack with scheduler })
    | .background => .error .backgroundTask

end InetStack

/-! ## The waits -/

/-- What a wait finds out about a token. -/
inductive Probe where
  | invalid
  | pending (stack : InetStack)
  | completed (reported : QDesc × OperationResult) (stack : InetStack)

/-- The handle of a token, which is used up if the operation has completed and whose key is
taken back otherwise. -/
def probe (qt : QToken) (stack : InetStack) : Except WaitFault Probe :=
  match stack.scheduler.fromRawHandle qt with
  | .error fault => .error (.scheduler fault)
  | .ok none => .ok .invalid
  | .ok (some scheduler) =>
    if scheduler.hasCompleted qt then
      match { stack with scheduler }.takeOperation qt with
      | .error fault => .error fault
      | .ok (reported, stack) => .ok (.completed reported stack)
    else .ok (.pending { stack with scheduler := scheduler.takeKey qt })

/-- `Fail::new(libc::EINVAL, "invalid queue token")`. -/
def invalidQueueToken : Fail := ⟨.EINVAL, "invalid queue token"⟩

/-- The stack, the slices that the caller passes, and the number of results in them. -/
structure Waiting (ρ : Type) where
  stack : InetStack
  qrs : List ρ
  indices : List Nat
  completed : Nat

/-- A result as it is stored, from the number of results before it, its token, its queue
descriptor and the result of the operation. -/
abbrev Packing (ρ : Type) := Nat → QToken → QDesc × OperationResult → ρ

/-- One round of a wait: what `poll_bg_work` does, unless it panics, and whether the timeout
has expired. -/
structure WaitRound where
  pollBgWork : InetStack → Option InetStack
  expired : Bool

variable {ρ : Type}

/-- The body of the loops that store results: what they do with one token. -/
def examine (pack : Packing ρ) (index : Nat) (qt : QToken) (waiting : Waiting ρ) :
    Except WaitFault (Except Fail (Waiting ρ)) :=
  match probe qt waiting.stack with
  | .error fault => .error fault
  | .ok .invalid => .ok (.error invalidQueueToken)
  | .ok (.pending stack) => .ok (.ok { waiting with stack })
  | .ok (.completed reported stack) =>
    if waiting.completed < waiting.qrs.length ∧ waiting.completed < waiting.indices.length then
      .ok (.ok {
        stack
        qrs := waiting.qrs.set waiting.completed (pack waiting.completed qt reported)
        indices := waiting.indices.set waiting.completed index
        completed := waiting.completed + 1 })
    else .error .pastEnd

/-- The search of `wait_any2` and `wait_any`, which stops where `qrs` is full. -/
def search (pack : Packing ρ) :
    List QToken → Nat → Waiting ρ → Except WaitFault (Waiting ρ × Option Fail)
  | [], _, waiting => .ok (waiting, none)
  | qt :: qts, index, waiting =>
    if waiting.completed = waiting.qrs.length then .ok (waiting, none)
    else
      match examine pack index qt waiting with
      | .error fault => .error fault
      | .ok (.error fail) => .ok (waiting, some fail)
      | .ok (.ok waiting) => search pack qts (index + 1) waiting

/-- One turn of the loop of `wait_any2` and `wait_any`, with what it returns unless the loop
goes on. -/
def iteration (pack : Packing ρ) (qts : List QToken) (round : WaitRound) (waiting : Waiting ρ) :
    Except WaitFault (Waiting ρ × Option (Except Fail Nat)) :=
  match round.pollBgWork waiting.stack with
  | none => .error .pollBgWork
  | some stack =>
    match search pack qts 0 { waiting with stack, completed := 0 } with
    | .error fault => .error fault
    | .ok (waiting, some fail) => .ok (waiting, some (.error fail))
    | .ok (waiting, none) =>
      if 0 < waiting.completed then .ok (waiting, some (.ok waiting.completed))
      else if round.expired then .ok (waiting, some (.ok 0))
      else .ok (waiting, none)

/-- The loop of `wait_any2` and `wait_any`, over the rounds that it is given. -/
def waitLoop (pack : Packing ρ) (qts : List QToken) :
    List WaitRound → Waiting ρ → Except WaitFault (Waiting ρ × Option (Except Fail Nat))
  | [], waiting => .ok (waiting, none)
  | round :: rounds, waiting =>
    match iteration pack qts round waiting with
    | .error fault => .error fault
    | .ok (waiting, some returned) => .ok (waiting, some returned)
    | .ok (waiting, none) => waitLoop pack qts rounds waiting

/-- `wait_any2` stores a queue descriptor and a result as they are. -/
def unpacked : Packing (QDesc × OperationResult) := fun _ _ reported => reported

/-- `wait_any2`. -/
def waitAny2 := waitLoop unpacked

/-- The loop of `wait_any_nonblocking2`, which looks at every token. -/
def searchAll (pack : Packing ρ) :
    List QToken → Nat → Waiting ρ → Except WaitFault (Waiting ρ × Option Fail)
  | [], _, waiting => .ok (waiting, none)
  | qt :: qts, index, waiting =>
    match examine pack index qt waiting with
    | .error fault => .error fault
    | .ok (.error fail) => .ok (waiting, some fail)
    | .ok (.ok waiting) => searchAll pack qts (index + 1) waiting

/-- `wait_any_nonblocking2`. -/
def waitAnyNonblocking2 (qts : List QToken) (pollBgWork : InetStack → Option InetStack)
    (waiting : Waiting (QDesc × OperationResult)) :
    Except WaitFault (Waiting (QDesc × OperationResult) × Except Fail Nat) :=
  match pollBgWork waiting.stack with
  | none => .error .pollBgWork
  | some stack =>
    match searchAll unpacked qts 0 { waiting with stack, completed := 0 } with
    | .error fault => .error fault
    | .ok (waiting, some fail) => .ok (waiting, .error fail)
    | .ok (waiting, none) => .ok (waiting, .ok waiting.completed)

/-- The loop of `wait_any_nonblocking_one2`. -/
def searchOne : List QToken → Nat → InetStack →
    Except WaitFault (InetStack × Except Fail (Option (Nat × QDesc × OperationResult)))
  | [], _, stack => .ok (stack, .ok none)
  | qt :: qts, index, stack =>
    match probe qt stack with
    | .error fault => .error fault
    | .ok .invalid => .ok (stack, .error invalidQueueToken)
    | .ok (.pending stack) => searchOne qts (index + 1) stack
    | .ok (.completed (qd, result) stack) => .ok (stack, .ok (some (index, qd, result)))

/-- `wait_any_nonblocking_one2`. -/
def waitAnyNonblockingOne2 (qts : List QToken)
    (pollBgWork : InetStack → Option InetStack) (stack : InetStack) :
    Except WaitFault (InetStack × Except Fail (Option (Nat × QDesc × OperationResult))) :=
  match pollBgWork stack with
  | none => .error .pollBgWork
  | some stack => searchOne qts 0 stack

/-! ## The results of `wait_any` -/

/-- `demi_opcode_t`, as far as `pack_result` uses it. -/
inductive DemiOpcode where
  | connect
  | accept
  | push
  | pop
  | failed
  deriving DecidableEq, Repr

/-- The address of a scatter-gather array: zeros, or a `sockaddr_in`. -/
inductive Sockaddr where
  | zeroed
  | inet (sinFamily sinPort : UInt16) (sAddr : BitVec 32)
  deriving DecidableEq, Repr

/-- `demi_sgarray_t`, over its buffer and segments. -/
structure DemiSgarray (β : Type) where
  contents : β
  addr : Sockaddr

/-- `demi_qr_value_t`. -/
inductive DemiQrValue (β : Type) where
  | zeroed
  | sga (sga : DemiSgarray β)
  | ares (qd : BitVec 32) (addr : Sockaddr)
  | err (errno : Errno)

/-- `demi_qresult_t`. -/
structure DemiQresult (β : Type) where
  opcode : DemiOpcode
  qd : BitVec 32
  qt : QToken
  value : DemiQrValue β

/-- A queue descriptor as an `i32`. -/
def QDesc.toI32 (qd : QDesc) : BitVec 32 := BitVec.ofNat 32 qd

/-- `u32::from_le_bytes` of the octets of an address. -/
def fromLeBytes (ip : Ipv4Addr) : BitVec 32 :=
  ip.extractLsb' 0 8 ++ ip.extractLsb' 8 8 ++ ip.extractLsb' 16 8 ++ ip.extractLsb' 24 8

/-- `pack_result`, where `intoSgarray` is what the memory manager answers. -/
def packResult {β : Type} (intoSgarray : Buffer → Except Fail (DemiSgarray β))
    (result : OperationResult) (qd : QDesc) (qt : QToken) : DemiQresult β :=
  match result with
  | .connect => ⟨.connect, qd.toI32, qt, .zeroed⟩
  | .accept newQd => ⟨.accept, qd.toI32, qt, .ares newQd.toI32 .zeroed⟩
  | .push => ⟨.push, qd.toI32, qt, .zeroed⟩
  | .pop addr bytes =>
    match intoSgarray bytes with
    | .ok sga =>
      let sga := match addr with
        | some endpoint =>
          -- `AF_INET`
          { sga with addr := .inet 2 endpoint.port (fromLeBytes endpoint.ip) }
        | none => sga
      ⟨.pop, qd.toI32, qt, .sga sga⟩
    | .error _ => ⟨.failed, qd.toI32, qt, .zeroed⟩
  | .failed fail => ⟨.failed, qd.toI32, qt, .err fail.errno⟩

/-- `wait_any` packs its results. The memory manager may answer differently at each call. -/
def packed {β : Type} (intoSgarray : Nat → Buffer → Except Fail (DemiSgarray β)) :
    Packing (DemiQresult β) :=
  fun completed qt reported => packResult (intoSgarray completed) reported.2 reported.1 qt

/-- `wait_any`. -/
def waitAny {β : Type} (intoSgarray : Nat → Buffer → Except Fail (DemiSgarray β)) :=
  waitLoop (packed intoSgarray)

/-! ## What a wait finds out about a token -/

/-- What a future reports, once it is done. -/
def FutureOperation.result : FutureOperation → Option (QDesc × OperationResult)
  | .tcp operation => operation.expectResult.map fun (qd, _, qr) => (qd, qr)
  | .udp operation => operation.getResult
  | .background => none

/-- The queue descriptor that a future releases as its result is taken. -/
def FutureOperation.released : FutureOperation → Option QDesc
  | .tcp operation =>
    match operation.expectResult with
    | some (_, newQd, .failed _) => newQd
    | _ => none
  | _ => none

namespace InetStack

/-- The operation of a token. -/
def operation (stack : InetStack) (qt : QToken) : Option FutureOperation :=
  (stack.scheduler.slab.get qt).map stack.futures

/-- What the operation of a token reports. -/
def result (stack : InetStack) (qt : QToken) : Option (QDesc × OperationResult) :=
  (stack.operation qt).bind FutureOperation.result

/-- The stack without the operation of a token. -/
def without (stack : InetStack) (qt : QToken) : InetStack where
  scheduler := { stack.scheduler with
    slab := stack.scheduler.slab.remove qt
    pages := onPage stack.scheduler.pages qt .clear }
  futures := stack.futures
  fileTable :=
    match (stack.operation qt).bind FutureOperation.released with
    | some newQd => free newQd stack.fileTable
    | none => stack.fileTable

/-- A token stands for an operation that has not completed. -/
structure Idle (stack : InetStack) (qt : QToken) : Prop where
  occupied : stack.scheduler.slab.get qt ≠ none
  covered : qt / 64 < stack.scheduler.pages.length
  incomplete : stack.scheduler.hasCompleted qt = false

/-- A token stands for an operation that has completed and whose result can be taken. -/
structure Ready (stack : InetStack) (qt : QToken) (reported : QDesc × OperationResult) :
    Prop where
  complete : stack.scheduler.hasCompleted qt = true
  kept : flag WakerPage.dropped stack.scheduler.pages qt = false
  result : stack.result qt = some reported

variable {stack : InetStack} {qt : QToken} {reported : QDesc × OperationResult}

/-- A completed token has its waker page. -/
theorem Ready.covered (ready : stack.Ready qt reported) :
    qt / 64 < stack.scheduler.pages.length :=
  flag_covered ready.complete

/-- The task of an operation with a result. -/
theorem result_eq_some (result : stack.result qt = some reported) :
    ∃ task, stack.scheduler.slab.get qt = some task ∧
      (stack.futures task).result = some reported := by
  unfold InetStack.result operation at result
  cases occupied : stack.scheduler.slab.get qt with
  | none =>
    rw [occupied] at result
    cases result
  | some task =>
    rw [occupied] at result
    exact ⟨task, rfl, result⟩

/-- A completed token is not vacant. -/
theorem Ready.occupied (ready : stack.Ready qt reported) :
    stack.scheduler.slab.get qt ≠ none := by
  obtain ⟨task, occupied, -⟩ := result_eq_some ready.result
  rw [occupied]
  exact Option.some_ne_none task

/-- Taking an operation with a new handle. -/
theorem takeOperation_held (stack : InetStack) {qt : QToken}
    (covered : qt / 64 < stack.scheduler.pages.length) :
    takeOperation qt { stack with scheduler := { stack.scheduler with
        handles := qt :: stack.scheduler.handles } } =
      if flag WakerPage.dropped stack.scheduler.pages qt then
        .error (.scheduler .takenAfterDrop)
      else match stack.operation qt with
        | none => .error (.scheduler .takenTwice)
        | some future => match future.result with
          | some reported => .ok (reported, stack.without qt)
          | none => .error (if future matches .background then .backgroundTask else .notReady) := by
  unfold takeOperation Scheduler.take
  dsimp only
  rw [if_pos List.mem_cons_self, if_neg (Nat.not_le_of_lt covered), List.erase_cons_head]
  cases dropped : flag WakerPage.dropped stack.scheduler.pages qt with
  | true => rfl
  | false =>
    simp only [Bool.false_eq_true, if_false]
    unfold without operation
    cases occupied : stack.scheduler.slab.get qt with
    | none => rfl
    | some task =>
      dsimp only [Option.map_some, Option.bind_some]
      cases future : stack.futures task with
      | tcp operation =>
        simp only [FutureOperation.result, FutureOperation.released]
        cases result : operation.expectResult with
        | none => rfl
        | some found =>
          obtain ⟨qd, newQd, qr⟩ := found
          cases newQd <;> cases qr <;> rfl
      | udp operation =>
        simp only [FutureOperation.result, FutureOperation.released]
        cases operation.getResult <;> rfl
      | background => rfl

/-- The ways in which looking at a token can end. -/
inductive Probed (stack : InetStack) (qt : QToken) : Probe → Prop where
  | invalid (vacant : stack.scheduler.slab.get qt = none) : Probed stack qt .invalid
  | pending (idle : stack.Idle qt) : Probed stack qt (.pending stack)
  | completed {reported : QDesc × OperationResult} (ready : stack.Ready qt reported) :
      Probed stack qt (.completed reported (stack.without qt))

/-- Looking at a token, with the handle out of the way. -/
theorem probe_eq (stack : InetStack) (qt : QToken) : probe qt stack =
    if stack.scheduler.slab.get qt = none then .ok .invalid
    else if stack.scheduler.pages.length ≤ qt / 64 then .error (.scheduler .noPage)
    else if stack.scheduler.hasCompleted qt then
      if flag WakerPage.dropped stack.scheduler.pages qt then
        .error (.scheduler .takenAfterDrop)
      else match stack.operation qt with
        | none => .error (.scheduler .takenTwice)
        | some future => match future.result with
          | some reported => .ok (.completed reported (stack.without qt))
          | none => .error (if future matches .background then .backgroundTask else .notReady)
    else .ok (.pending stack) := by
  unfold probe Scheduler.fromRawHandle
  cases occupied : stack.scheduler.slab.get qt with
  | none => rfl
  | some task =>
    rw [if_neg (Option.some_ne_none task)]
    by_cases uncovered : stack.scheduler.pages.length ≤ qt / 64
    · simp only [if_pos uncovered]
    simp only [if_neg uncovered]
    have same : Scheduler.hasCompleted qt { stack.scheduler with
        handles := qt :: stack.scheduler.handles } = stack.scheduler.hasCompleted qt := rfl
    rw [same]
    cases complete : stack.scheduler.hasCompleted qt with
    | false =>
      rw [if_neg Bool.false_ne_true, if_neg Bool.false_ne_true, Scheduler.takeKey,
        List.erase_cons_head]
    | true =>
      rw [if_pos rfl, if_pos rfl, takeOperation_held stack (Nat.lt_of_not_le uncovered)]
      cases flag WakerPage.dropped stack.scheduler.pages qt with
      | true => rfl
      | false =>
        cases stack.operation qt with
        | none => rfl
        | some future =>
          dsimp only
          cases future.result <;> rfl

/-- A probe finds the token invalid, pending or completed, and does what belongs to it. -/
theorem probe_outcome {found : Probe} (probes : probe qt stack = .ok found) :
    Probed stack qt found := by
  rw [probe_eq] at probes
  split at probes
  · rename_i vacant
    cases probes
    exact .invalid vacant
  rename_i occupied
  split at probes
  · cases probes
  rename_i covered
  split at probes
  · rename_i complete
    split at probes
    · cases probes
    rename_i kept
    split at probes
    · cases probes
    rename_i future operation
    split at probes
    · rename_i reported result
      cases probes
      refine .completed ⟨complete, by simpa using kept, ?_⟩
      rw [InetStack.result, operation]
      exact result
    · cases probes
  · rename_i incomplete
    cases probes
    exact .pending ⟨occupied, Nat.lt_of_not_le covered, by simpa using incomplete⟩

/-- A vacant token is invalid. -/
theorem probe_invalid (vacant : stack.scheduler.slab.get qt = none) :
    probe qt stack = .ok .invalid := by
  rw [probe_eq, if_pos vacant]

/-- A pending token leaves the stack as it is. -/
theorem probe_idle (idle : stack.Idle qt) : probe qt stack = .ok (.pending stack) := by
  rw [probe_eq, if_neg idle.occupied, if_neg (Nat.not_le_of_lt idle.covered), idle.incomplete,
    if_neg Bool.false_ne_true]

/-- A completed token is taken out of the stack, with its result. -/
theorem probe_ready (ready : stack.Ready qt reported) :
    probe qt stack = .ok (.completed reported (stack.without qt)) := by
  rw [probe_eq, if_neg ready.occupied, if_neg (Nat.not_le_of_lt ready.covered), ready.complete,
    if_pos rfl, ready.kept, if_neg Bool.false_ne_true]
  obtain ⟨task, occupied, result⟩ := result_eq_some ready.result
  unfold operation
  rw [occupied, Option.map_some]
  dsimp only
  rw [result]

/-! ## The other operations when one is taken -/

section

variable {other : QToken}

/-- The slot of a token that was taken is vacant, and the others are as before. -/
theorem without_get (stack : InetStack) (qt other : QToken) :
    (stack.without qt).scheduler.slab.get other =
      if other = qt then none else stack.scheduler.slab.get other :=
  stack.scheduler.slab.get_remove qt other

/-- Only the flags of this token are cleared. -/
theorem without_flag (bitmap : WakerPage → BitVec 64)
    (clears : ∀ page ix, bitmap (page.clear ix) = clearBit (bitmap page) ix)
    (different : other ≠ qt) :
    flag bitmap (stack.without qt).scheduler.pages other = flag bitmap stack.scheduler.pages other := by
  dsimp only [without]
  rw [flag_clear clears, decide_eq_true different, Bool.true_and]

/-- Another token has completed as it had before. -/
theorem without_hasCompleted (different : other ≠ qt) :
    (stack.without qt).scheduler.hasCompleted other = stack.scheduler.hasCompleted other :=
  without_flag WakerPage.completed (fun _ _ => rfl) different

/-- Another token keeps its operation. -/
theorem without_operation (different : other ≠ qt) :
    (stack.without qt).operation other = stack.operation other := by
  unfold operation
  rw [without_get, if_neg different]
  rfl

/-- Another token keeps its result. -/
theorem without_result (different : other ≠ qt) :
    (stack.without qt).result other = stack.result other := by
  unfold InetStack.result
  rw [without_operation different]

/-- No waker page goes. -/
theorem without_covered : (stack.without qt).scheduler.pages.length = stack.scheduler.pages.length :=
  length_onPage qt

/-- Another token is pending as before. -/
theorem Idle.without_iff (different : other ≠ qt) :
    (stack.without qt).Idle other ↔ stack.Idle other := by
  constructor
  · rintro ⟨occupied, covered, incomplete⟩
    rw [without_get, if_neg different] at occupied
    rw [without_covered] at covered
    rw [without_hasCompleted different] at incomplete
    exact ⟨occupied, covered, incomplete⟩
  · rintro ⟨occupied, covered, incomplete⟩
    refine ⟨?_, ?_, ?_⟩
    · rw [without_get, if_neg different]
      exact occupied
    · rw [without_covered]
      exact covered
    · rw [without_hasCompleted different]
      exact incomplete

/-- Another token is completed as before. -/
theorem Ready.without_iff (different : other ≠ qt) :
    (stack.without qt).Ready other reported ↔ stack.Ready other reported := by
  have dropped : flag WakerPage.dropped (stack.without qt).scheduler.pages other =
      flag WakerPage.dropped stack.scheduler.pages other :=
    without_flag WakerPage.dropped (fun _ _ => rfl) different
  constructor
  · rintro ⟨complete, kept, result⟩
    rw [without_hasCompleted different] at complete
    rw [dropped] at kept
    rw [without_result different] at result
    exact ⟨complete, kept, result⟩
  · rintro ⟨complete, kept, result⟩
    refine ⟨?_, ?_, ?_⟩
    · rw [without_hasCompleted different]
      exact complete
    · rw [dropped]
      exact kept
    · rw [without_result different]
      exact result

end

end InetStack

end Capybara
