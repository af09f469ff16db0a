import Capybara.Tcp.Established.Acknowledgement
import Capybara.Tcp.Established.Reassembly
import Capybara.Tcp.Established.RetransmitTimer
import Capybara.Tcp.Established.Robustness

/-!
# Connections that have moved

An imported control block is rebuilt with the numbers, the queues and the store of the
one that was exported, and with new timers and congestion control. What an invariant
says about the former therefore survives a migration, and what holds after a run on the
server of the handshake holds wherever the connection has moved to. The counters and the
conditions are those of the actions in its life; a migration counts nothing and needs
nothing.

The state of the connection and what has been transmitted are not exported. Results that
speak about them are not carried over: a rebuilt connection takes itself for established.
-/

namespace Capybara

open EndMarkers OutOfOrder

variable {κ ρ : Type} [CongestionControl κ] [RtoCalculator ρ]

namespace ControlBlock

variable {profile : Profile} {application : Option ApplicationState} {importer : Importer}
  {localAddr : SocketAddrV4} {cb rebuilt : ControlBlock κ ρ}

/-- The receiving side is rebuilt as it was. -/
theorem migrate_reception (migrated : cb.migrate profile application importer localAddr =
    .ok rebuilt) : rebuilt.reception = cb.reception := by
  obtain ⟨-, rfl⟩ := migrate_ok.mp migrated
  rfl

/-- The numbers of the sender and the scale of its window are rebuilt as they were. -/
theorem migrate_numbers (migrated : cb.migrate profile application importer localAddr =
    .ok rebuilt) :
    rebuilt.sender.sendUnacked.value = cb.sender.sendUnacked.value ∧
    rebuilt.sender.sendNext.value = cb.sender.sendNext.value ∧
    rebuilt.sender.windowScale = cb.sender.windowScale := by
  obtain ⟨-, rfl⟩ := migrate_ok.mp migrated
  exact ⟨rfl, rfl, rfl⟩

end ControlBlock

namespace Connection

/-! ## The actions of a life -/

/-- The action in an event of a life. A migration is none. -/
def act : Runs.Transition (Connection κ ρ) Event → Option (Transition κ ρ)
  | ⟨source, .act action, target⟩ => some ⟨source, action, target⟩
  | ⟨_, .migrate _ _ _, _⟩ => none

/-- The actions in a life, most recent first. They need not follow each other: between
two of them the connection may have been rebuilt. -/
def acts (past : List (Runs.Transition (Connection κ ρ) Event)) : List (Transition κ ρ) :=
  past.filterMap act

variable {profile : Profile} {start : Connection κ ρ}

/-- The invariant rule for lives. A property of the actions so far and of the connection
holds after every life if every action that follows the condition keeps it, and if it
holds of a rebuilt connection because it held of the exported one. -/
theorem life_invariant {condition : List (Transition κ ρ) → Connection κ ρ → Action → Prop}
    (invariant : List (Transition κ ρ) → Connection κ ρ → Prop) (initially : invariant [] start)
    (kept : ∀ past source action target, condition past source action → invariant past source →
      source.step profile action = .ok target → invariant (⟨source, action, target⟩ :: past) target)
    (moved : ∀ past (source : Connection κ ρ) application importer localAddr rebuilt,
      source.cb.userIsDoneSending = false → invariant past source →
      source.cb.migrate profile application importer localAddr = .ok rebuilt →
      invariant past ⟨rebuilt, .top⟩)
    {past : List (Runs.Transition (Connection κ ρ) Event)} {state : Connection κ ρ}
    (life : Life profile start past state) (follows : Runs.Follows condition (acts past)) :
    invariant (acts past) state := by
  induction life with
  | nil => exact initially
  | @step past source target event earlier advanced inductionHypothesis =>
    cases event with
    | act action =>
      exact kept _ source action target follows.1 (inductionHypothesis follows.2) advanced
    | migrate application importer localAddr =>
      have before := inductionHypothesis follows
      simp only [live] at advanced
      split at advanced
      · cases advanced
      rename_i active
      obtain ⟨rebuilt, migrated, advanced⟩ := bind_ok.mp advanced
      cases advanced
      exact moved _ source application importer localAddr rebuilt (Bool.eq_false_iff.mpr active)
        before migrated

/-- The rule for conditions on the single actions. -/
theorem life_meets {condition : Connection κ ρ → Action → Prop}
    (invariant : List (Transition κ ρ) → Connection κ ρ → Prop) (initially : invariant [] start)
    (kept : ∀ past source action target, condition source action → invariant past source →
      source.step profile action = .ok target → invariant (⟨source, action, target⟩ :: past) target)
    (moved : ∀ past (source : Connection κ ρ) application importer localAddr rebuilt,
      source.cb.userIsDoneSending = false → invariant past source →
      source.cb.migrate profile application importer localAddr = .ok rebuilt →
      invariant past ⟨rebuilt, .top⟩)
    {past : List (Runs.Transition (Connection κ ρ) Event)} {state : Connection κ ρ}
    (life : Life profile start past state) (meets : Runs.Meets condition (acts past)) :
    invariant (acts past) state :=
  life_invariant invariant initially kept moved life (Runs.follows_of_meets meets)

/-! ## What survives -/

/-- Out-of-order store invariant, wherever the connection has moved to. The condition is
that of `store_sound`, on every server on which text arrives. -/
theorem life_store_sound (profile : Profile) (args : NewConnection)
    (scale : args.receiverWindowScale.toNat ≤ 14)
    (size : ∃ window < 2 ^ 16,
      args.receiverWindowSize.toNat = window <<< args.receiverWindowScale.toNat)
    {past : List (Runs.Transition (Connection κ ρ) Event)} {state : Connection κ ρ}
    (life : Life profile (Connection.new args) past state)
    (tidy : Runs.Meets TidyArrival (acts past)) : state.cb.StoreSound := by
  have kept : Accounted args.receiverSeqNo (received (acts past)) (allPopped (acts past)).length
      state.cb ∧ state.cb.TidyStore := by
    refine life_meets (fun past (state : Connection κ ρ) =>
      Accounted args.receiverSeqNo (received past) (allPopped past).length state.cb ∧
        state.cb.TidyStore) ?_ ?_ ?_ life tidy
    · exact ⟨.new args scale size, .new args⟩
    · intro past source action target arrival ⟨accounted, tidy⟩ advanced
      rw [allPopped, List.length_append]
      exact accounted.tidy_step tidy arrival advanced
    · intro past source _ _ _ rebuilt _ ⟨accounted, tidy⟩ migrated
      have same := ControlBlock.migrate_reception migrated
      exact ⟨accounted.of_eq same, tidy.of_eq same⟩
  exact kept.2.sound kept.1.settled

/-- Out-of-order text moves with the connection, and is taken from the store once the gap is
filled on the other server. -/
example : ∃ past state, Life .dev (Connection.sample 1000 1000 536) past state ∧
    Runs.Meets TidyArrival (acts past) ∧ state.cb.receiver.recvQueue.flatten = [1, 2, 3, 4] ∧
    state.cb.StoreSound := by
  have life : ∃ past state, Life .dev (Connection.sample 1000 1000 536) past state ∧
      Runs.Meets TidyArrival (acts past) ∧
      state.cb.receiver.recvQueue.flatten = [1, 2, 3, 4] := by
    refine ⟨_, _, .step (.act (.segment 100 1000 [1, 2] false)) (.step _
      (.step (.act (.segment 102 1000 [3, 4] false)) .nil rfl)
      (live_migrate .dev none Importer.sample ⟨0x0a000003#32, 80⟩ rfl ⟨by decide,
        ⟨by decide, by decide⟩, ⟨by decide, by decide⟩, ⟨by decide, by decide⟩,
        ⟨by decide, by decide⟩⟩)) rfl, ?_, rfl⟩
    refine (Runs.meets_cons _ _ _).mpr ⟨?_, (Runs.meets_cons _ _ _).mpr ⟨?_, Runs.meets_nil _⟩⟩
    all_goals
      refine ⟨by decide, fun _ => ⟨fun _ _ => ?_, .of_no_fin (by decide) (by decide)⟩⟩
      unfold Clean
      decide
  obtain ⟨past, state, life, tidy, queue⟩ := life
  exact ⟨past, state, life, tidy, queue, life_store_sound .dev
    (NewConnection.sample 1000 1000 536) (by decide) ⟨1000, by decide, rfl⟩ life tidy⟩

/-- The receive window is accounted for along every life in which the edge is kept clear
after the first turn, and the size of the buffer and the scale of the peer do not change. -/
theorem life_accounted {args : NewConnection} (scale : args.receiverWindowScale.toNat ≤ 14)
    (size : ∃ window < 2 ^ 16,
      args.receiverWindowSize.toNat = window <<< args.receiverWindowScale.toNat)
    {past : List (Runs.Transition (Connection κ ρ) Event)} {state : Connection κ ρ}
    (life : Life profile (Connection.new args) past state)
    (short : Runs.Meets ShortSegment (acts past))
    (edge : received (acts past) + args.receiverWindowSize.toNat < 2 ^ 32 ∨
      Runs.Meets EdgeCounted (acts past)) :
    state.cb.receiveBufferSize = args.receiverWindowSize ∧
    state.cb.sender.windowScale = args.senderWindowScale ∧
    Accounted args.receiverSeqNo (received (acts past)) (allPopped (acts past)).length state.cb := by
  refine life_meets (fun past (state : Connection κ ρ) =>
    (received past + args.receiverWindowSize.toNat < 2 ^ 32 ∨ Runs.Meets EdgeCounted past) →
      state.cb.receiveBufferSize = args.receiverWindowSize ∧
      state.cb.sender.windowScale = args.senderWindowScale ∧
      Accounted args.receiverSeqNo (received past) (allPopped past).length state.cb)
    ?_ ?_ ?_ life short edge
  · exact fun _ => ⟨rfl, rfl, .new args scale size⟩
  · intro past source action target short earlier advanced edge
    obtain ⟨same, scaled, accounted⟩ := earlier (edge_before edge)
    have clear : EdgeCounted source action := accounted.edgeCounted (by rw [same]; exact edge)
    have fin := step_finCounted accounted short clear advanced
    refine ⟨(step_size accounted.settled fin.short advanced).trans same,
      (step_scale advanced).trans scaled, ?_⟩
    rw [allPopped, List.length_append]
    exact accounted.step fin clear advanced
  · intro past source _ _ _ rebuilt _ earlier migrated edge
    obtain ⟨same, scaled, accounted⟩ := earlier edge
    have reception := ControlBlock.migrate_reception migrated
    obtain ⟨-, -, scale⟩ := ControlBlock.migrate_numbers migrated
    exact ⟨(ControlBlock.receiveBufferSize_eq reception).trans same, scale.trans scaled,
      accounted.of_eq reception⟩

/-- The queues mean the accepted stream along every life that keeps it. -/
theorem life_transmits {args : NewConnection} (mss : 1 ≤ args.senderMss)
    {past : List (Runs.Transition (Connection κ ρ) Event)} {state : Connection κ ρ}
    (life : Life profile (Connection.new args) past state)
    (kept : Runs.Meets StreamKept (acts past)) :
    ∃ stream acked, Transmits args.senderSeqNo stream acked state.cb.view state.task := by
  refine life_meets (fun _ (state : Connection κ ρ) =>
    ∃ stream acked, Transmits args.senderSeqNo stream acked state.cb.view state.task)
    ?_ ?_ ?_ life kept
  · exact ⟨_, _, run_transmits mss (Runs.Run.nil : Run profile _ _ _) (Runs.meets_nil _)⟩
  · intro _ source action target kept ⟨stream, acked, transmits⟩ advanced
    exact ⟨_, _, step_transmits kept transmits advanced⟩
  · intro _ source _ _ _ rebuilt active ⟨stream, acked, transmits⟩ migrated
    exact ⟨stream, acked, migrate_transmits transmits active migrated⟩

/-- No remote crash, wherever the connection has moved to: `receive` returns on exactly
the harmless segments, under the conditions of `receive_returns_iff` on the actions of
its life.

Proof: the two invariants of a run are invariants of a life, since a rebuilt control
block has the same reception and holds the same rest of the same stream. What they say
of the segments is a fact about one state. -/
theorem life_receive_returns (profile : Profile) (args : NewConnection)
    (scale : args.receiverWindowScale.toNat ≤ 14)
    (size : ∃ window < 2 ^ 16,
      args.receiverWindowSize.toNat = window <<< args.receiverWindowScale.toNat)
    (senderScale : args.senderWindowScale.toNat < 32) (mss : 1 ≤ args.senderMss)
    {past : List (Runs.Transition (Connection κ ρ) Event)} {state : Connection κ ρ}
    (life : Life profile (Connection.new args) past state)
    (short : Runs.Meets ShortSegment (acts past)) (kept : Runs.Meets StreamKept (acts past))
    (small : state.cb.sender.held + 1 < 2 ^ 32)
    (edge : received (acts past) + args.receiverWindowSize.toNat < 2 ^ 32 ∨
      Runs.Meets EdgeCounted (acts past) ∧ state.cb.EdgeClear)
    (env : Env) (header : TcpHeader) (data : Buffer)
    (arrives : sequenceLength header data ≤ 2 ^ 31) :
    (∃ cb, state.cb.receive profile env header data = .ok cb) ↔
      state.cb.Harmless profile header data := by
  obtain ⟨same, scaled, accounted⟩ := life_accounted scale size life short (edge.imp_right And.left)
  obtain ⟨stream, acked, transmits⟩ := life_transmits mss life kept
  have clear : state.cb.EdgeClear := by
    rcases edge with turn | ⟨-, clear⟩
    · exact accounted.edgeClear (by rw [same]; exact turn)
    · exact clear
  exact receive_accounted accounted transmits clear (by rw [scaled]; exact senderScale) small arrives

/-- ACK acceptance, wherever the connection has moved to: along every life without a
half-space acknowledgement the counters of its actions are the numbers of the sender and
move forward, and one segment acknowledges exactly the outstanding numbers before its
own. -/
theorem life_ack_exact (profile : Profile) (args : NewConnection)
    {past : List (Runs.Transition (Connection κ ρ) Event)} {state : Connection κ ρ}
    (life : Life profile (Connection.new args) past state)
    (counted : Runs.Follows (AckCounted profile) (acts past))
    (small : sent (acts past) < acked (acts past) + 2 ^ 31) :
    Counted args.senderSeqNo (acts past) state ∧
    ∀ env header data cb, ¬ state.cb.sender.HalfSpaceAck header →
      state.cb.receive profile env header data = .ok cb →
      let new := state.cb.ProcessesAck profile header data ∧
        1 ≤ state.cb.sender.sendUnacked.value.ahead header.ackNum ∧
        state.cb.sender.sendUnacked.value.ahead header.ackNum ≤ state.cb.sender.outstanding
      (new → cb.sender.sendUnacked.value = header.ackNum ∧
        (MarkerLast state.cb.sender.unackedBuffers → cb.sender.unackedBuffers.flatten =
          state.cb.sender.unackedBuffers.flatten.drop
            (state.cb.sender.sendUnacked.value.ahead header.ackNum))) ∧
      (¬ new → cb.sender = state.cb.sender) := by
  have counts : Counted args.senderSeqNo (acts past) state := by
    refine life_invariant (Counted args.senderSeqNo) ?_ ?_ ?_ life counted
    · exact run_counted (Runs.Run.nil : Run profile _ _ _) trivial
    · exact fun past source action target here counted advanced => counted.step here advanced
    · intro past source _ _ _ rebuilt _ counted migrated
      obtain ⟨unacked, next, -⟩ := ControlBlock.migrate_numbers migrated
      exact ⟨unacked.trans counted.unacked, next.trans counted.next, counted.ordered,
        counted.forward⟩
  refine ⟨counts, fun env header data cb apart received => ?_⟩
  have distance := counts.outstanding small
  obtain ⟨moves, stays⟩ := receive_acknowledges (by omega) apart received
  refine ⟨fun new => ?_, stays⟩
  obtain ⟨moved, rto, -, left⟩ := moves new
  exact ⟨moved, left⟩

end Connection

end Capybara
