import Capybara.Tcp.ConnectionTables
import Capybara.Tcp.Listener

/-!
# What a listening socket has of one client

A listening socket keeps the entry of a client, the coroutine of its handshake, the
connections that wait to be accepted and what has been sent to the client. All that happens
with other clients leaves this record as it is, so that a handshake can be followed as if the
client were the only one.
-/

namespace Capybara

open Tables

variable {κ ρ : Type}

namespace Listener

/-- What a listening socket has of one client. -/
structure Record (κ ρ : Type) where
  entry : Option InflightAccept
  task : Option HandshakeTask
  queued : List (ControlBlock κ ρ)
  listed : Bool
  sent : List TcpSegment

/-- A waiting connection of the client. -/
def waitingFor (client : SocketAddrV4) :
    Except Fail (ControlBlock κ ρ) → Option (ControlBlock κ ρ)
  | .ok cb => if cb.remote = client then some cb else none
  | .error _ => none

/-- A segment that is addressed to the client. -/
def isFor (client : SocketAddrV4) (segment : TcpSegment) : Bool :=
  decide ((⟨segment.dstAddr, segment.tcpHdr.dstPort⟩ : SocketAddrV4) = client)

/-- The record of a client. -/
def record (client : SocketAddrV4) (listener : Listener κ ρ) : Record κ ρ where
  entry := listener.passive.inflight.lookup client
  task := listener.tasks.lookup client
  queued := listener.passive.ready.ready.filterMap (waitingFor client)
  listed := decide (client ∈ listener.passive.ready.endpoints)
  sent := listener.transmitted.filter (isFor client)

/-- The configuration of a listening socket. -/
def configuration (listener : Listener κ ρ) :
    SocketAddrV4 × TcpConfig × MacAddress × HandshakeConfig :=
  (listener.passive.localAddr, listener.passive.tcpConfig, listener.passive.localLinkAddr,
    listener.config)

/-- What becomes of a coroutine; it keeps its numbers and sends SYN+ACKs. -/
theorem task_step (config : HandshakeConfig) (passive : PassiveSocket κ ρ) (remote : SocketAddrV4)
    (now : Instant) (arp : Option (Except Fail MacAddress)) (task : HandshakeTask) :
    ∃ progress, (task.step config passive remote now arp).1 = { task with progress } ∧
      ∀ segment ∈ (task.step config passive remote now arp).2,
        ∃ remoteLinkAddr, segment = passive.synAck config task remote remoteLinkAddr := by
  unfold HandshakeTask.step
  split
  · split
    · split
      · exact ⟨task.progress, rfl, by simp⟩
      · exact ⟨_, rfl, by simp⟩
      · rename_i remoteLinkAddr
        exact ⟨_, rfl, fun segment member => ⟨remoteLinkAddr, List.mem_singleton.mp member⟩⟩
    · exact ⟨_, rfl, by simp⟩
  · split
    · exact ⟨task.progress, rfl, by simp⟩
    · exact ⟨_, rfl, by simp⟩
  · exact ⟨task.progress, rfl, by simp⟩

variable [CongestionControl κ] [RtoCalculator ρ] {profile : Profile}
  {listener listener' : Listener κ ρ} {client : SocketAddrV4}

/-- Nothing changes the configuration. -/
theorem Outcome.configuration {action : ListenerAction κ ρ}
    (outcome : Outcome profile listener action listener') :
    listener'.configuration = listener.configuration := by
  cases outcome <;> rfl

omit [CongestionControl κ] [RtoCalculator ρ] in
/-- A connection that joins the queue is listed. -/
theorem pushOk_listed {sockets ready : ReadySockets κ ρ} {cb : ControlBlock κ ρ}
    (pushed : sockets.pushOk cb = .ok ready) : ready.endpoints = cb.remote :: sockets.endpoints := by
  unfold ReadySockets.pushOk at pushed
  split at pushed
  · cases pushed
  · cases pushed
    rfl

/-- Segments of other clients leave the record as it is. -/
theorem record_other {digest : UInt32} {ipHeader : Ipv4Header} {header : TcpHeader}
    (other : source ipHeader header ≠ client)
    (outcome : Outcome profile listener (.segment digest ipHeader header) listener') :
    listener'.record client = listener.record client := by
  cases outcome with
  | dropped => rfl
  | started =>
    simp only [record, AList.lookup_insert_ne other.symm]
  | @completed _ _ _ inflight cb ready waiting acks number opened pushed =>
    have remote := (PassiveSocket.opened_remote opened).2
    have apart : cb.remote ≠ client := remote ▸ other
    simp only [record, AList.lookup_erase_ne other.symm, ReadySockets.pushOk_ready pushed,
      pushOk_listed pushed, List.filterMap_append, List.filterMap_cons, waitingFor, if_neg apart,
      List.filterMap_nil, List.append_nil, List.mem_cons, apart.symm, false_or]

/-- A segment of the client is dropped, begins a handshake or completes one. -/
theorem record_own {digest : UInt32} {ipHeader : Ipv4Header} {header : TcpHeader}
    (own : source ipHeader header = client)
    (outcome : Outcome profile listener (.segment digest ipHeader header) listener') :
    listener'.record client = listener.record client ∨
    ((listener.record client).listed = false ∧ (listener.record client).entry = none ∧
      isSyn header = true ∧
      ∃ localIsn, listener'.record client = { listener.record client with
        entry := some (entry localIsn header)
        task := some ⟨localIsn, header.seqNum, .querying 0⟩ }) ∨
    ∃ inflight cb, (listener.record client).entry = some inflight ∧ header.ack = true ∧
      header.ackNum = inflight.localIsn + SeqNumber.ofU32 1 ∧
      listener.passive.opened client inflight = .ok cb ∧
      listener'.record client = { listener.record client with
        entry := none
        task := none
        queued := (listener.record client).queued ++ [cb]
        listed := true } := by
  subst own
  cases outcome with
  | dropped => exact .inl rfl
  | @started _ _ _ localIsn _ unready absent syn room =>
    refine .inr (.inl ⟨decide_eq_false unready, absent, syn, localIsn, ?_⟩)
    simp only [record, AList.lookup_insert]
  | @completed _ _ _ inflight cb ready waiting acks number opened pushed =>
    have remote := (PassiveSocket.opened_remote opened).2
    refine .inr (.inr ⟨inflight, cb, waiting, acks, number, opened, ?_⟩)
    simp only [record, AList.lookup_erase, ReadySockets.pushOk_ready pushed, pushOk_listed pushed,
      List.filterMap_append, List.filterMap_cons, waitingFor, remote, if_true, List.filterMap_nil,
      List.mem_cons, true_or, decide_true]

/-- The coroutine of a client changes nothing but its progress, and sends SYN+ACKs to it. -/
theorem record_background {remote : SocketAddrV4} {now : Instant}
    {arp : Option (Except Fail MacAddress)}
    (outcome : Outcome profile listener (.background remote now arp) listener') :
    ∃ (progress : HandshakeTask → HandshakeProgress) (more : List TcpSegment),
      listener'.record client = { listener.record client with
        task := (listener.record client).task.map fun task => { task with progress := progress task }
        sent := (listener.record client).sent ++ more } ∧
      ∀ segment ∈ more, ∃ task remoteLinkAddr, (listener.record client).task = some task ∧
        segment = listener.passive.synAck listener.config task client remoteLinkAddr := by
  have kept (tasks : Option HandshakeTask) :
      tasks.map (fun task => { task with progress := task.progress }) = tasks := by
    cases tasks <;> rfl
  cases outcome with
  | idle ended =>
    refine ⟨HandshakeTask.progress, [], ?_, by simp⟩
    rw [kept, List.append_nil]
  | @progressed _ _ _ task running =>
    obtain ⟨progress, steps, sends⟩ :=
      task_step listener.config listener.passive remote now arp task
    by_cases own : remote = client
    · subst own
      refine ⟨fun _ => progress, (task.step listener.config listener.passive remote now arp).2.filter
        (isFor remote), ?_, fun segment member => ?_⟩
      · simp only [record, AList.lookup_insert, running, Option.map_some, List.filter_append, steps]
      · obtain ⟨remoteLinkAddr, same⟩ := sends segment (List.mem_filter.mp member).1
        exact ⟨task, remoteLinkAddr, running, same⟩
    · refine ⟨HandshakeTask.progress, [], ?_, by simp⟩
      have nothing : (task.step listener.config listener.passive remote now arp).2.filter
          (isFor client) = [] := by
        rw [List.filter_eq_nil_iff]
        intro segment member
        obtain ⟨remoteLinkAddr, rfl⟩ := sends segment member
        rw [Bool.not_eq_true]
        exact decide_eq_false own
      rw [kept, List.append_nil]
      simp only [record, AList.lookup_insert_ne (Ne.symm own), List.filter_append, nothing,
        List.append_nil]

omit [CongestionControl κ] [RtoCalculator ρ] in
/-- An accept takes the first waiting connection of the client, or leaves the record as it is. -/
theorem record_accept {waker : Waker} {ready : ReadySockets κ ρ}
    {polled : Option (Except Fail (ControlBlock κ ρ))}
    (polls : listener.passive.ready.poll waker = .ok (ready, polled)) :
    let listener' := { listener with passive := { listener.passive with ready } }
    ((∀ cb, polled = some (.ok cb) → cb.remote ≠ client) ∧
      listener'.record client = listener.record client) ∨
    ∃ cb, polled = some (.ok cb) ∧ cb.remote = client ∧
      (listener.record client).queued = cb :: (listener'.record client).queued ∧
      (listener'.record client).entry = (listener.record client).entry ∧
      (listener'.record client).task = (listener.record client).task ∧
      (listener'.record client).sent = (listener.record client).sent := by
  obtain ⟨nothing, endpoints, same | ⟨fail, front⟩⟩ | ⟨cb, rest, taken, front, rfl⟩ :=
    Inner.poll_cases polls
  · refine .inl ⟨fun cb taken => absurd taken (nothing cb), ?_⟩
    simp only [record, endpoints, ← same]
  · refine .inl ⟨fun cb taken => absurd taken (nothing cb), ?_⟩
    simp only [record, endpoints, front, List.filterMap_cons, waitingFor]
  · by_cases own : cb.remote = client
    · refine .inr ⟨cb, taken, own, ?_, rfl, rfl, rfl⟩
      simp only [record, front, List.filterMap_cons, waitingFor, if_pos own]
    · refine .inl ⟨fun cb' taken' => ?_, ?_⟩
      · cases taken.symm.trans taken'
        exact own
      · have member : client ∈ listener.passive.ready.endpoints.erase cb.remote ↔
            client ∈ listener.passive.ready.endpoints := List.mem_erase_of_ne (Ne.symm own)
        simp only [record, front, List.filterMap_cons, waitingFor, if_neg own, member]

end Listener

end Capybara
