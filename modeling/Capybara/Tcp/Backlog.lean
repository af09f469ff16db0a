import Capybara.Tcp.Listener
import Capybara.Tcp.ConnectionTables

/-!
# The backlog of a listening socket

A SYN takes a place in the backlog: first as an entry, then, when the handshake has
completed, as a waiting connection. The places in use and the accepts so far add up to
the handshakes that were started, and the places never exceed the backlog.

An accept gives the place back. A handshake that times out does not: its coroutine
ends with a warning and the entry stays, so that each abandoned SYN costs a place.
-/

namespace Capybara

open Tables Runs

variable {κ ρ : Type}

namespace Listener

/-- No connection is migrated in. -/
def Unmigrated (_ : Listener κ ρ) : ListenerAction κ ρ → Prop
  | .migratedIn _ => False
  | _ => True

/-- The coroutine comes to the end of its last round. -/
def Exhausts (config : HandshakeConfig) (now : Instant) (arp : Option (Except Fail MacAddress)) :
    HandshakeProgress → Prop
  | .querying round => config.handshakeRetries ≤ round ∨
      config.handshakeRetries ≤ round + 1 ∧ ∃ fail, arp = some (.error fail)
  | .waiting round deadline => config.handshakeRetries ≤ round + 1 ∧ deadline ≤ now
  | .timedOut => False

/-- No handshake comes to the end of its last round. -/
def InTime (listener : Listener κ ρ) : ListenerAction κ ρ → Prop
  | .background remote now arp => ∀ task, listener.tasks.lookup remote = some task →
      ¬ Exhausts listener.config now arp task.progress
  | _ => True

/-- The places of the backlog that are in use. -/
def used (listener : Listener κ ρ) : Nat :=
  listener.passive.inflight.entries.length + listener.passive.ready.ready.length

/-- The transition has started a handshake. -/
def starts (transition : Transition κ ρ) : Bool :=
  match transition.action with
  | .segment _ ipHeader header =>
    (transition.source.passive.inflight.lookup (source ipHeader header)).isNone &&
    (transition.target.passive.inflight.lookup (source ipHeader header)).isSome
  | _ => false

/-- The transition has accepted a connection. -/
def accepts (transition : Transition κ ρ) : Bool :=
  match transition.action with
  | .accept _ => transition.target.passive.ready.ready.length <
      transition.source.passive.ready.ready.length
  | _ => false

/-- The coroutine of a client has ended. -/
def ended (listener : Listener κ ρ) (remote : SocketAddrV4) : Bool :=
  (listener.tasks.lookup remote).any fun task => task.progress = .timedOut

/-- A handshake has timed out in the transition. -/
def timesOut (transition : Transition κ ρ) : Bool :=
  match transition.action with
  | .background remote _ _ => !transition.source.ended remote && transition.target.ended remote
  | _ => false

variable [CongestionControl κ] [RtoCalculator ρ] {profile : Profile}
  {listener listener' : Listener κ ρ}

/-! ## One action -/

omit [CongestionControl κ] [RtoCalculator ρ] in
/-- A coroutine that is not at the end of its last round goes on. -/
theorem step_timedOut {config : HandshakeConfig} {passive : PassiveSocket κ ρ}
    {remote : SocketAddrV4} {now : Instant} {arp : Option (Except Fail MacAddress)}
    {task : HandshakeTask} (ends : (task.step config passive remote now arp).1.progress = .timedOut) :
    task.progress = .timedOut ∨ Exhausts config now arp task.progress := by
  unfold HandshakeTask.step at ends
  cases progress : task.progress with
  | querying round =>
    rw [progress] at ends
    dsimp only at ends
    right
    by_cases left : round < config.handshakeRetries
    · rw [if_pos left] at ends
      cases arp with
      | none =>
        rw [progress] at ends
        cases ends
      | some answer =>
        cases answer with
        | error fail =>
          dsimp only [HandshakeProgress.begin] at ends
          split at ends
          · cases ends
          · rename_i last
            exact .inr ⟨Nat.le_of_not_lt last, fail, rfl⟩
        | ok remoteLinkAddr => cases ends
    · exact .inl (Nat.le_of_not_lt left)
  | waiting round deadline =>
    rw [progress] at ends
    dsimp only at ends
    right
    by_cases early : now < deadline
    · rw [if_pos early, progress] at ends
      cases ends
    · rw [if_neg early] at ends
      dsimp only [HandshakeProgress.begin] at ends
      split at ends
      · cases ends
      · rename_i last
        exact ⟨Nat.le_of_not_lt last, Nat.le_of_not_lt early⟩
  | timedOut => exact .inl rfl

/-- An action that is in time lets no handshake time out. -/
theorem timesOut_eq_false {action : ListenerAction κ ρ} (inTime : listener.InTime action)
    (outcome : Outcome profile listener action listener') :
    timesOut ⟨listener, action, listener'⟩ = false := by
  cases outcome with
  | dropped | started | completed | polled | migrated => rfl
  | idle ended => simp [timesOut]
  | @progressed remote now arp task running =>
    have going := inTime task running
    simp only [timesOut, ended, running, AList.lookup_insert, Option.any_some]
    by_cases ends : (task.step listener.config listener.passive remote now arp).1.progress = .timedOut
    · obtain already | exhausts := step_timedOut ends
      · simp [already]
      · exact absurd exhausts going
    · simp [ends]

omit [CongestionControl κ] [RtoCalculator ρ] in
/-- A transition that keeps the entry of the sender starts nothing. -/
theorem starts_eq_false {digest : UInt32} {ipHeader : Ipv4Header} {header : TcpHeader}
    (kept : listener.passive.inflight.lookup (source ipHeader header) ≠ none ∨
      listener'.passive.inflight.lookup (source ipHeader header) = none) :
    starts ⟨listener, .segment digest ipHeader header, listener'⟩ = false := by
  simp only [starts, Bool.and_eq_false_iff]
  obtain present | absent := kept
  · exact .inl (Option.isNone_eq_false_iff.mpr (Option.isSome_iff_ne_none.mpr present))
  · exact .inr (by simp [absent])

/-- How an action changes the number of places in use. -/
theorem used_step {action : ListenerAction κ ρ} (unmigrated : listener.Unmigrated action)
    (outcome : Outcome profile listener action listener') :
    listener'.used + (accepts ⟨listener, action, listener'⟩).toNat =
      listener.used + (starts ⟨listener, action, listener'⟩).toNat := by
  cases outcome with
  | dropped =>
    rw [starts_eq_false (Decidable.em _).symm]
    rfl
  | started unready absent syn room =>
    simp only [accepts, starts, used, absent, AList.lookup_insert, Table.length_insert absent,
      Option.isNone_none, Option.isSome_some, Bool.and_self, Bool.toNat_true, Bool.toNat_false]
    omega
  | completed waiting acks number opened pushed =>
    have fewer := Table.length_erase waiting
    have more := congrArg List.length (ReadySockets.pushOk_ready pushed)
    rw [starts_eq_false (.inr (AList.lookup_erase _ _))]
    simp only [List.length_append, List.length_singleton] at more
    simp only [accepts, used, Bool.toNat_false]
    omega
  | idle | progressed => rfl
  | polled polls =>
    obtain same | shorter := ReadySockets.poll_length polls
    · simp [accepts, starts, used, same]
    · simp only [accepts, starts, used, ← shorter, Nat.lt_succ_self, decide_true, Bool.toNat_true,
        Bool.toNat_false]
      omega
  | migrated => exact unmigrated.elim

/-- A handshake is started only while a place is free. -/
theorem used_le {action : ListenerAction κ ρ} (unmigrated : listener.Unmigrated action)
    (outcome : Outcome profile listener action listener')
    (fits : listener.used ≤ listener.passive.maxBacklog) :
    listener'.used ≤ listener'.passive.maxBacklog := by
  have change := used_step unmigrated outcome
  have same : listener'.passive.maxBacklog = listener.passive.maxBacklog := by
    cases outcome <;> rfl
  cases starting : starts ⟨listener, action, listener'⟩ with
  | false =>
    rw [starting, Bool.toNat_false] at change
    omega
  | true =>
    have room : listener.used < listener.passive.maxBacklog := by
      cases outcome with
      | started unready absent syn room => exact room
      | dropped =>
        rw [starts_eq_false (Decidable.em _).symm] at starting
        cases starting
      | completed =>
        rw [starts_eq_false (.inr (AList.lookup_erase _ _))] at starting
        cases starting
      | idle | progressed | polled | migrated => cases starting
    rw [starting, Bool.toNat_true] at change
    omega

/-- The registered endpoints stay those of the queue. -/
theorem registered_step {action : ListenerAction κ ρ}
    (outcome : Outcome profile listener action listener')
    (registered : listener.passive.ready.Registered) : listener'.passive.ready.Registered := by
  cases outcome with
  | dropped | started | idle | progressed => exact registered
  | completed waiting acks number opened pushed => exact (registered.pushOk pushed).1
  | polled polls =>
    obtain ⟨-, same, fewer⟩ | ⟨cb, rest, -, front, rfl⟩ := Inner.poll_cases polls
    · exact (registered.of_poll same fewer).1
    · exact (registered.pop front).1
  | migrated pushed => exact (registered.pushOk pushed).1

/-! ## Runs -/

/-- A SYN is accepted while nothing is in use and a number can be drawn. -/
theorem syn_accepted {digest : UInt32} {ipHeader : Ipv4Header} {header : TcpHeader}
    (registered : listener.passive.ready.Registered) (free : listener.used = 0)
    (positive : 0 < listener.passive.maxBacklog) (syn : isSyn header = true)
    (drawn : Returns (listener.passive.isnGenerator.generate profile digest)) :
    ∃ passive, listener.passive.receive profile digest ipHeader header = .ok (passive, .ok ()) ∧
      (passive.inflight.lookup (source ipHeader header)).isSome := by
  obtain ⟨noEntries, noReady⟩ := Nat.add_eq_zero_iff.mp free
  have unready : source ipHeader header ∉ listener.passive.ready.endpoints := by
    rw [registered.same.mem_iff, ReadySockets.remotes, List.eq_nil_of_length_eq_zero noReady]
    exact List.not_mem_nil
  have absent : listener.passive.inflight.lookup (source ipHeader header) = none := by
    have empty : listener.passive.inflight = ∅ :=
      AList.ext (List.eq_nil_of_length_eq_zero noEntries)
    rw [empty]
    exact AList.lookup_empty _
  have flags : (!header.syn || header.ack || header.rst) = false := by
    unfold isSyn at syn
    revert syn
    cases header.syn <;> cases header.ack <;> cases header.rst <;> simp
  have room : ¬ listener.passive.inflight.entries.length + listener.passive.ready.ready.length ≥
      listener.passive.maxBacklog := by
    rw [noEntries, noReady]
    exact Nat.not_le_of_lt positive
  obtain ⟨⟨localIsn, isnGenerator⟩, drawn⟩ := drawn
  refine ⟨{ listener.passive with
    inflight := listener.passive.inflight.insert (source ipHeader header) (entry localIsn header)
    isnGenerator }, ?_, ?_⟩
  · unfold PassiveSocket.receive
    dsimp only
    rw [if_neg unready, absent]
    dsimp only [PassiveSocket.receiveSyn]
    rw [flags, if_neg Bool.false_ne_true, if_neg room, drawn]
    rfl
  · simp only [AList.lookup_insert, Option.isSome_some]

/-- Without migrated connections the places in use never exceed the backlog. If moreover
no handshake times out, every place is given back: the places in use and the accepts add
up to the handshakes started, and once all of them have been accepted or have timed out
a SYN is accepted, provided that there is a backlog and a number can be drawn.

Proof: the places in use change with each step by what it starts and accepts, so that
their number is counted along the run. If as many handshakes have been accepted or have
timed out as were started, and none has timed out, nothing is in use, and a SYN then
finds room. -/
theorem backlog_accounted (profile : Profile) (localAddr : SocketAddrV4) (maxBacklog : Nat)
    (tcpConfig : TcpConfig) (config : HandshakeConfig) (localLinkAddr : MacAddress)
    {past : List (Transition κ ρ)} {listener : Listener κ ρ}
    (run : Run profile (new localAddr maxBacklog tcpConfig config localLinkAddr) past listener)
    (unmigrated : Meets Unmigrated past) :
    listener.used ≤ maxBacklog ∧
    (Meets InTime past →
      listener.used + past.countP accepts = past.countP starts ∧
      (past.countP starts = past.countP accepts + past.countP timesOut → 0 < maxBacklog →
        ∀ digest ipHeader header, isSyn header = true →
          Returns (listener.passive.isnGenerator.generate profile digest) →
            ∃ passive, listener.passive.receive profile digest ipHeader header =
                .ok (passive, .ok ()) ∧
              (passive.inflight.lookup (source ipHeader header)).isSome)) := by
  have backlog : listener.passive.maxBacklog = maxBacklog := by
    refine state_invariant (fun listener => listener.passive.maxBacklog = maxBacklog) rfl ?_ run
      unmigrated
    intro before action after _ same advanced
    rw [← same]
    cases step_outcome advanced <;> rfl
  have bounded : listener.used ≤ listener.passive.maxBacklog := by
    refine state_invariant (fun listener => listener.used ≤ listener.passive.maxBacklog)
      (Nat.zero_le _) ?_ run unmigrated
    intro before action after here fits advanced
    exact used_le here (step_outcome advanced) fits
  have accounted : listener.used + past.countP accepts = past.countP starts := by
    refine run_invariant (fun past listener =>
      listener.used + past.countP accepts = past.countP starts) rfl ?_ run unmigrated
    intro past before action after _ here accounted advanced
    have change := used_step here (step_outcome advanced)
    simp only [List.countP_cons]
    revert change
    cases accepts ⟨before, action, after⟩ <;> cases starts ⟨before, action, after⟩ <;>
      simp <;> omega
  have registered : listener.passive.ready.Registered := by
    refine state_invariant (fun listener => listener.passive.ready.Registered) .new ?_ run unmigrated
    intro before action after _ earlier advanced
    exact registered_step (step_outcome advanced) earlier
  rw [backlog] at bounded
  refine ⟨bounded, fun inTime => ⟨accounted, ?_⟩⟩
  intro quiet positive digest ipHeader header syn drawn
  have none : past.countP timesOut = 0 := by
    refine run_invariant (fun past _ => past.countP timesOut = 0) rfl ?_ run inTime
    intro past before action after _ here earlier advanced
    rw [List.countP_cons, earlier, timesOut_eq_false here (step_outcome advanced)]
    rfl
  have free : listener.used = 0 := by omega
  exact syn_accepted registered free (backlog ▸ positive) syn drawn

/-- A connection is opened and accepted, and the next SYN gets its place. -/
theorem backlog_reused :
    ∃ past listener, execute (step .dev) ([], sample)
        [sampleSegment true false none, sampleSegment false false (some 8), .accept 1] =
        .ok (past, listener) ∧
      listener.used ≤ 1 ∧
      ∃ passive, listener.passive.receive .dev 9 ⟨0x0a000008#32, 0x0a000001#32⟩
          (sampleHeader true false none) = .ok (passive, .ok ()) ∧
        (passive.inflight.lookup (source ⟨0x0a000008#32, 0x0a000001#32⟩
          (sampleHeader true false none))).isSome := by
  have executed : ∃ past listener, execute (step .dev) ([], sample)
      [sampleSegment true false none, sampleSegment false false (some 8), .accept 1] =
        .ok (past, listener) ∧
      past.countP starts = past.countP accepts + past.countP timesOut ∧
      Returns (listener.passive.isnGenerator.generate .dev 9) := ⟨_, _, rfl, rfl, _, rfl⟩
  obtain ⟨past, listener, executed, quiet, drawn⟩ := executed
  have unmigrated : Meets Unmigrated past := by
    refine meets_of_execute _ (meets_nil _) ?_ executed
    intro action member source
    simp only [List.mem_cons, List.not_mem_nil, or_false] at member
    obtain rfl | rfl | rfl := member <;> trivial
  have inTime : Meets InTime past := by
    refine meets_of_execute _ (meets_nil _) ?_ executed
    intro action member source
    simp only [List.mem_cons, List.not_mem_nil, or_false] at member
    obtain rfl | rfl | rfl := member <;> trivial
  obtain ⟨bounded, accounted⟩ :=
    backlog_accounted .dev _ _ _ _ _ (run_of_execute .nil executed) unmigrated
  exact ⟨past, listener, executed, bounded,
    (accounted inTime).2 quiet Nat.one_pos 9 _ _ rfl drawn⟩

/-- The only handshake times out after two rounds, and the next SYN is refused. -/
theorem place_lost :
    ∃ past listener passive, execute (step .dev) ([], sample)
        [sampleSegment true false none,
          .background ⟨0x0a000009#32, 4000⟩ 0 (some (.ok 5#48)),
          .background ⟨0x0a000009#32, 4000⟩ 1000 none,
          .background ⟨0x0a000009#32, 4000⟩ 1000 (some (.ok 5#48)),
          .background ⟨0x0a000009#32, 4000⟩ 2000 none] = .ok (past, listener) ∧
      past.countP starts = past.countP accepts + past.countP timesOut ∧
      0 < listener.passive.maxBacklog ∧ isSyn (sampleHeader true false none) = true ∧
      listener.passive.receive .dev 9 ⟨0x0a000008#32, 0x0a000001#32⟩
        (sampleHeader true false none) =
          .ok (passive, .error ⟨.ECONNREFUSED, "connection refused"⟩) :=
  ⟨_, _, _, rfl, rfl, Nat.one_pos, rfl, rfl⟩

end Listener

end Capybara
