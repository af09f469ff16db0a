import Capybara.Tcp.Listener
import Capybara.Tcp.ConnectionTables

/-!
# What a passive handshake accepts

A control block joins the queue of a listening socket when a segment acknowledges the
SYN+ACK of the entry of its client. The entry is removed at the same time, so that a
SYN leads to one connection at most, and the control block begins behind the numbers
of the two SYNs. The history of a client is a sequence of handshakes that begin and
complete in turn.

The acknowledgement is recognised by the ACK flag and its number alone. A reset that
carries them, as a peer sends it that refuses the SYN+ACK with an acknowledgement,
completes the handshake too; without such segments a push answers a proper
acknowledgement.
-/

namespace Capybara

open Tables Runs

variable {κ ρ : Type} [CongestionControl κ] [RtoCalculator ρ]

namespace Listener

/-- The segment acknowledges the SYN+ACK of the entry of its sender. -/
structure Acknowledges (listener : Listener κ ρ) (ipHeader : Ipv4Header) (header : TcpHeader)
    (inflight : InflightAccept) : Prop where
  waiting : listener.passive.inflight.lookup (source ipHeader header) = some inflight
  acks : header.ack = true
  number : header.ackNum = inflight.localIsn + SeqNumber.ofU32 1

/-- A segment that acknowledges a SYN+ACK neither resets nor opens a connection. -/
def Orderly (listener : Listener κ ρ) : ListenerAction κ ρ → Prop
  | .segment _ ipHeader header => ∀ inflight, listener.Acknowledges ipHeader header inflight →
      header.rst = false ∧ header.syn = false
  | _ => True

/-- What a transition has added to the queue. -/
def pushed (transition : Transition κ ρ) : List (Except Fail (ControlBlock κ ρ)) :=
  transition.target.passive.ready.ready.drop transition.source.passive.ready.ready.length

/-- What a segment may add to the queue: the connection of a handshake that it completes. -/
structure Legitimate (transition : Transition κ ρ) (ipHeader : Ipv4Header) (header : TcpHeader)
    (cb : ControlBlock κ ρ) : Prop where
  acknowledges : ∃ inflight, transition.source.Acknowledges ipHeader header inflight ∧
    cb.receiver.receiveNext = inflight.remoteIsn + SeqNumber.ofU32 1 ∧
    cb.sender.sendNext.value = inflight.localIsn + SeqNumber.ofU32 1
  noReset : header.rst = false
  noSyn : header.syn = false
  client : cb.remote = source ipHeader header
  removed : transition.target.passive.inflight.lookup cb.remote = none

/-- An event in the history of a client. -/
inductive HandshakeEvent where
  | began (remoteIsn localIsn : SeqNumber)
  | completed (receiveNext sendNext : SeqNumber)
  deriving DecidableEq, Repr

/-- A connection of the client that a segment has added to the queue. -/
def completion (remote : SocketAddrV4) :
    Except Fail (ControlBlock κ ρ) → Option HandshakeEvent
  | .ok cb =>
    if cb.remote = remote then
      some (.completed cb.receiver.receiveNext cb.sender.sendNext.value)
    else none
  | .error _ => none

/-- What a segment has meant for a client: a SYN has got an entry, or connections have
joined the queue. -/
def events (remote : SocketAddrV4) (transition : Transition κ ρ) : List HandshakeEvent :=
  match transition.action with
  | .segment _ _ header =>
    (match transition.source.passive.inflight.lookup remote,
        transition.target.passive.inflight.lookup remote with
      | none, some inflight => [.began header.seqNum inflight.localIsn]
      | _, _ => []) ++ (pushed transition).filterMap (completion remote)
  | _ => []

/-- The history of a client, most recent event first. -/
def history (remote : SocketAddrV4) (past : List (Transition κ ρ)) : List HandshakeEvent :=
  past.flatMap (events remote)

/-- Handshakes begin and complete in turn, and a connection continues the numbers of the
handshake before it. The last argument is the handshake that has not been completed. -/
inductive Alternates : List HandshakeEvent → Option (SeqNumber × SeqNumber) → Prop where
  | nothing : Alternates [] none
  | began {earlier : List HandshakeEvent} (remoteIsn localIsn : SeqNumber) :
      Alternates earlier none →
        Alternates (.began remoteIsn localIsn :: earlier) (some (remoteIsn, localIsn))
  | completed {earlier : List HandshakeEvent} {remoteIsn localIsn : SeqNumber} :
      Alternates earlier (some (remoteIsn, localIsn)) →
        Alternates (.completed (remoteIsn + SeqNumber.ofU32 1) (localIsn + SeqNumber.ofU32 1) ::
          earlier) none

/-- The numbers of an entry. -/
def numbers (inflight : InflightAccept) : SeqNumber × SeqNumber :=
  (inflight.remoteIsn, inflight.localIsn)

variable {profile : Profile} {listener listener' : Listener κ ρ}

/-! ## One transition -/

/-- The numbers of the connection of a completed handshake. -/
theorem opened_numbers {passive : PassiveSocket κ ρ} {remote : SocketAddrV4}
    {inflight : InflightAccept} {cb : ControlBlock κ ρ}
    (opened : passive.opened remote inflight = .ok cb) :
    cb.receiver.receiveNext = inflight.remoteIsn + SeqNumber.ofU32 1 ∧
    cb.sender.sendNext.value = inflight.localIsn + SeqNumber.ofU32 1 := by
  obtain ⟨senderWindowSize, -, opened⟩ := bind_ok.mp opened
  obtain ⟨receiverWindowSize, -, opened⟩ := bind_ok.mp opened
  cases opened
  exact ⟨rfl, rfl⟩

omit [CongestionControl κ] [RtoCalculator ρ] in
/-- A queue that did not grow had nothing added. -/
theorem pushed_nil {transition : Transition κ ρ}
    (shorter : transition.target.passive.ready.ready.length ≤
      transition.source.passive.ready.ready.length) : pushed transition = [] :=
  List.drop_eq_nil_of_le shorter

omit [CongestionControl κ] [RtoCalculator ρ] in
/-- A push adds one connection to those that have been pushed. -/
theorem pushed_singleton {transition : Transition κ ρ} {cb : ControlBlock κ ρ}
    (pushed : transition.source.passive.ready.pushOk cb = .ok transition.target.passive.ready) :
    Listener.pushed transition = [.ok cb] := by
  rw [Listener.pushed, ReadySockets.pushOk_ready pushed, List.drop_left]

/-- Whatever a segment adds to the queue is legitimate, if it is orderly. -/
theorem pushed_legitimate {digest : UInt32} {ipHeader : Ipv4Header} {header : TcpHeader}
    (orderly : listener.Orderly (.segment digest ipHeader header))
    (outcome : Outcome profile listener (.segment digest ipHeader header) listener') :
    ∀ ready ∈ pushed ⟨listener, .segment digest ipHeader header, listener'⟩,
      ∃ cb, ready = .ok cb ∧
        Legitimate ⟨listener, .segment digest ipHeader header, listener'⟩ ipHeader header cb := by
  intro ready member
  cases outcome with
  | dropped =>
    rw [pushed_nil (Nat.le_refl _)] at member
    cases member
  | started unready absent syn room =>
    rw [pushed_nil (Nat.le_refl _)] at member
    cases member
  | @completed _ _ _ inflight cb _ waiting acks number opened joins =>
    rw [@pushed_singleton _ _ _ cb joins, List.mem_singleton] at member
    have acknowledges : listener.Acknowledges ipHeader header inflight := ⟨waiting, acks, number⟩
    have client := (PassiveSocket.opened_remote opened).2
    obtain ⟨noReset, noSyn⟩ := orderly inflight acknowledges
    refine ⟨cb, member, ⟨inflight, acknowledges, opened_numbers opened⟩, noReset, noSyn, client, ?_⟩
    rw [client]
    exact AList.lookup_erase _ _

/-- The history of each client goes on in turn. -/
theorem alternates_step {action : ListenerAction κ ρ} {earlier : List HandshakeEvent}
    {remote : SocketAddrV4}
    (alternates : Alternates earlier ((listener.passive.inflight.lookup remote).map numbers))
    (outcome : Outcome profile listener action listener') :
    Alternates (events remote ⟨listener, action, listener'⟩ ++ earlier)
      ((listener'.passive.inflight.lookup remote).map numbers) := by
  cases outcome with
  | @dropped digest ipHeader header =>
    have none : events remote (⟨listener, .segment digest ipHeader header, listener⟩ :
        Transition κ ρ) = [] := by
      have nothing : pushed (⟨listener, .segment digest ipHeader header, listener⟩ :
          Transition κ ρ) = [] := pushed_nil (Nat.le_refl _)
      simp only [events, nothing]
      cases listener.passive.inflight.lookup remote <;> rfl
    rw [none]
    exact alternates
  | @started digest ipHeader header localIsn isnGenerator unready absent syn room =>
    by_cases same : remote = source ipHeader header
    · subst same
      simp only [events, absent, AList.lookup_insert, pushed, List.drop_length, List.filterMap_nil,
        List.append_nil, List.singleton_append, Option.map_some]
      rw [absent] at alternates
      exact .began _ _ alternates
    · have none : events remote (⟨listener, .segment digest ipHeader header, { listener with
          passive := { listener.passive with
            inflight := listener.passive.inflight.insert (source ipHeader header)
              (entry localIsn header), isnGenerator }
          tasks := listener.tasks.insert (source ipHeader header)
            ⟨localIsn, header.seqNum, .querying 0⟩ }⟩ : Transition κ ρ) = [] := by
        simp only [events, AList.lookup_insert_ne same, pushed, List.drop_length, List.filterMap_nil]
        cases listener.passive.inflight.lookup remote <;> rfl
      rw [none]
      simpa only [AList.lookup_insert_ne same, List.nil_append] using alternates
  | @completed digest ipHeader header inflight cb ready waiting acks number opened joins =>
    obtain ⟨receiveNext, sendNext⟩ := opened_numbers opened
    have client := (PassiveSocket.opened_remote opened).2
    simp only [events, pushed, ReadySockets.pushOk_ready joins, List.drop_left, List.filterMap_cons,
      List.filterMap_nil, completion]
    by_cases same : remote = source ipHeader header
    · subst same
      rw [waiting] at alternates
      simp only [AList.lookup_erase, waiting, client, if_true, receiveNext, sendNext,
        List.nil_append, List.singleton_append, Option.map_none]
      exact .completed alternates
    · have other : cb.remote ≠ remote := client ▸ Ne.symm same
      simp only [AList.lookup_erase_ne same, if_neg other, List.append_nil]
      cases found : listener.passive.inflight.lookup remote <;>
        simpa only [found, List.nil_append] using alternates
  | idle | progressed | polled | migrated => exact alternates

/-! ## Runs -/

/-- In every run without resets or SYNs that acknowledge a SYN+ACK: what segments add to
the queue is legitimate and nothing else but a migration adds to it, the handshakes of
each client begin and complete in turn with the numbers of the SYNs, and a segment that
is refused changes nothing.

Proof: `step_outcome` names what a step can do. The first two parts are invariants of
the run, by cases on it: only the third segment of a handshake and a migration add to
the queue. The third part is a fact about one call. -/
theorem passive_handshake_safe (profile : Profile) (localAddr : SocketAddrV4) (maxBacklog : Nat)
    (tcpConfig : TcpConfig) (config : HandshakeConfig) (localLinkAddr : MacAddress)
    {past : List (Transition κ ρ)} {listener : Listener κ ρ}
    (run : Run profile (new localAddr maxBacklog tcpConfig config localLinkAddr) past listener)
    (orderly : Meets Orderly past) :
    (∀ transition ∈ past, ∀ ready ∈ pushed transition,
      (∃ cb, transition.action = .migratedIn cb) ∨
      ∃ digest ipHeader header cb, transition.action = .segment digest ipHeader header ∧
        ready = .ok cb ∧ Legitimate transition ipHeader header cb) ∧
    (∀ remote, Alternates (history remote past)
      ((listener.passive.inflight.lookup remote).map numbers)) ∧
    ∀ digest ipHeader header passive fail,
      listener.passive.receive profile digest ipHeader header = .ok (passive, .error fail) →
        passive = listener.passive := by
  refine ⟨?_, ?_, ?_⟩
  · refine run_invariant (fun past _ => ∀ transition ∈ past, ∀ ready ∈ pushed transition,
      (∃ cb, transition.action = .migratedIn cb) ∨
      ∃ digest ipHeader header cb, transition.action = .segment digest ipHeader header ∧
        ready = .ok cb ∧ Legitimate transition ipHeader header cb) (by simp) ?_ run orderly
    intro past before action after _ here earlier advanced transition member
    obtain rfl | member := List.mem_cons.mp member
    · intro ready joined
      have outcome := step_outcome advanced
      cases action with
      | segment digest ipHeader header =>
        obtain ⟨cb, same, legitimate⟩ := pushed_legitimate here outcome ready joined
        exact .inr ⟨digest, ipHeader, header, cb, rfl, same, legitimate⟩
      | background remote now arp =>
        rw [pushed_nil] at joined
        · cases joined
        · cases outcome <;> exact Nat.le_refl _
      | accept waker =>
        rw [pushed_nil] at joined
        · cases joined
        · cases outcome with
          | polled polls =>
            obtain same | shorter := ReadySockets.poll_length polls
            · exact Nat.le_of_eq same
            · exact Nat.le_of_succ_le (Nat.le_of_eq shorter)
      | migratedIn cb => exact .inl ⟨cb, rfl⟩
    · exact earlier transition member
  · intro remote
    refine run_invariant (fun past listener => Alternates (history remote past)
      ((listener.passive.inflight.lookup remote).map numbers)) ?_ ?_ run orderly
    · exact Alternates.nothing
    · intro past before action after _ _ alternates advanced
      exact alternates_step alternates (step_outcome advanced)
  · intro digest ipHeader header passive fail received
    exact (segment_outcome received).2 fail rfl

/-- A SYN and the acknowledgement of the SYN+ACK lead to one connection. -/
theorem passive_handshake_completes :
    ∃ past listener, execute (step .dev) ([], sample)
        [sampleSegment true false none, sampleSegment false false (some 8)] = .ok (past, listener) ∧
      listener.passive.ready.ready.length = 1 ∧
      ∀ transition ∈ past, ∀ ready ∈ pushed transition,
        (∃ cb, transition.action = .migratedIn cb) ∨
        ∃ digest ipHeader header cb, transition.action = .segment digest ipHeader header ∧
          ready = .ok cb ∧ Legitimate transition ipHeader header cb := by
  have executed : ∃ past listener, execute (step .dev) ([], sample)
      [sampleSegment true false none, sampleSegment false false (some 8)] = .ok (past, listener) ∧
      listener.passive.ready.ready.length = 1 := ⟨_, _, rfl, rfl⟩
  obtain ⟨past, listener, executed, queued⟩ := executed
  refine ⟨past, listener, executed, queued, ?_⟩
  have orderly : Meets Orderly past := by
    refine meets_of_execute _ (meets_nil _) ?_ executed
    intro action member source
    simp only [List.mem_cons, List.not_mem_nil, or_false] at member
    obtain rfl | rfl := member
    · intro inflight acknowledges
      cases acknowledges.acks
    · intro inflight acknowledges
      exact ⟨rfl, rfl⟩
  exact (passive_handshake_safe .dev _ _ _ _ _ (run_of_execute .nil executed) orderly).1

/-- A SYN, and a reset that acknowledges the SYN+ACK: the connection waits to be
accepted. -/
theorem reset_accepted :
    ∃ past listener, execute (step .dev) ([], sample)
        [sampleSegment true false none, sampleSegment false true (some 8)] = .ok (past, listener) ∧
      ∃ transition ∈ past, ∃ digest ipHeader header cb,
        transition.action = .segment digest ipHeader header ∧ header.rst = true ∧
        .ok cb ∈ pushed transition :=
  ⟨_, _, rfl, _, List.mem_cons_self, _, _, _, _, rfl, rfl, List.mem_cons_self⟩

end Listener

end Capybara
