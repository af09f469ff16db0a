import Capybara.Lib.WakerSlot
import Capybara.Tcp.Established.Confinement
import Capybara.Tcp.Listener

/-!
# Pops and accepts that wait

A connection has one waker slot for the pops that wait for data, a listening socket one
for the accepts that wait for a connection. Both are such slots: a poll that finds the
queue empty registers its waker, and data that arrives, like a connection that joins the
queue, wakes the operation in the slot.

Two operations that wait at the same time share the slot, and the second overwrites the
waker of the first. When the second has taken what arrives first, the next arrival wakes
nobody.
-/

namespace Capybara

open Runs WakerSlot

variable {κ ρ : Type} [CongestionControl κ] [RtoCalculator ρ]

/-! ## Pops -/

namespace Connection

/-- The waker slot of a connection. -/
def pops (profile : Profile) : System (Connection κ ρ) Action Fault Waker where
  step := step profile
  slot c := c.cb.waker
  woken c := c.cb.woken
  available c := !c.cb.receiver.recvQueue.isEmpty
  polls
    | .pollRecv waker => some waker
    | _ => none
  returns c
    | .pollRecv waker => (c.cb.pollRecv waker).2.isSome
    | _ => false

/-- Pops wait in the slot of their connection. -/
theorem pops_lawful (profile : Profile) : Lawful (pops (κ := κ) (ρ := ρ) profile) where
  returns := by
    intro source target action operation _ polls
    cases action with
    | pollRecv waker =>
      simp only [pops, ControlBlock.pollRecv, Receiver.pop]
      cases source.cb.receiver.recvQueue <;> rfl
    | _ => cases polls
  registers := by
    intro source target action operation advanced polls nothing
    cases action with
    | pollRecv waker =>
      cases polls
      cases advanced
      have empty : source.cb.receiver.recvQueue = [] := by
        simpa only [pops, Bool.not_eq_false', List.isEmpty_iff] using nothing
      have registered : (source.cb.pollRecv operation).1 =
          { source.cb with waker := some operation } := by
        simp only [ControlBlock.pollRecv, Receiver.pop, empty]
      dsimp only [pops]
      rw [registered]
      exact ⟨rfl, nothing⟩
    | _ => cases polls
  other := by
    intro source target action advanced none
    have other : ∀ waker, action ≠ .pollRecv waker := by
      rintro waker rfl
      cases none
    obtain rests | served := (source.step_serves profile action other).returns target advanced
    · obtain ⟨-, rests⟩ := Prod.mk.inj rests
      obtain ⟨queue, rests⟩ := Prod.mk.inj rests
      obtain ⟨waker, -⟩ := Prod.mk.inj rests
      refine .inl ⟨waker, fun nothing => ?_⟩
      simpa only [pops, queue] using nothing
    · exact .inr served.woken

end Connection

/-! ## Accepts -/

namespace Listener

/-- The waker slot of a listening socket. -/
def waitingAccepts (profile : Profile) :
    System (Listener κ ρ) (ListenerAction κ ρ) Fault Waker where
  step := step profile
  slot listener := listener.passive.ready.waker
  woken listener := listener.passive.ready.woken
  available listener := !listener.passive.ready.ready.isEmpty
  polls
    | .accept waker => some waker
    | _ => none
  returns listener
    | .accept waker =>
      match listener.passive.ready.poll waker with
      | .ok (_, result) => result.isSome
      | .error _ => false
    | _ => false

omit [CongestionControl κ] [RtoCalculator ρ] in
/-- A push wakes the operation in the slot. -/
theorem pushOk_woken {sockets ready : ReadySockets κ ρ} {cb : ControlBlock κ ρ}
    (pushed : sockets.pushOk cb = .ok ready) :
    ready.woken = sockets.woken ++ sockets.waker.toList := by
  unfold ReadySockets.pushOk at pushed
  split at pushed
  · cases pushed
  · cases pushed
    rfl

/-- Accepts wait in the slot of their listening socket. -/
theorem waitingAccepts_lawful (profile : Profile) :
    Lawful (waitingAccepts (κ := κ) (ρ := ρ) profile) where
  returns := by
    intro source target action operation advanced polls
    cases action with
    | accept waker =>
      obtain ⟨⟨ready, result⟩, polled, -⟩ := bind_ok.mp advanced
      simp only [waitingAccepts, polled]
      unfold ReadySockets.poll at polled
      split at polled
      · rename_i empty
        cases polled
        rw [empty]
        rfl
      · rename_i front
        cases polled
        rw [front]
        rfl
      · rename_i front
        split at polled
        · cases polled
          rw [front]
          rfl
        · cases polled
    | _ => cases polls
  registers := by
    intro source target action operation advanced polls nothing
    cases action with
    | accept waker =>
      cases polls
      obtain ⟨⟨ready, result⟩, polled, advanced⟩ := bind_ok.mp advanced
      cases advanced
      have empty : source.passive.ready.ready = [] := by
        simpa only [waitingAccepts, Bool.not_eq_false', List.isEmpty_iff] using nothing
      simp only [ReadySockets.poll, empty] at polled
      cases polled
      exact ⟨rfl, rfl⟩
    | _ => cases polls
  other := by
    intro source target action advanced none
    cases step_outcome advanced with
    | dropped | started | idle | progressed => exact .inl ⟨rfl, id⟩
    | completed waiting acks number opened pushed => exact .inr (pushOk_woken pushed)
    | polled => cases none
    | migrated pushed => exact .inr (pushOk_woken pushed)

end Listener

/-! ## Both -/

/-- In every run of a connection with its pops, and of a listening socket with its accepts,
in which no poll overwrites the waker of another operation that waits: while something is
in the queue and an operation waits, an operation that waits has been woken.

Proof: a connection and a listening socket are two instances of a queue with one waker
slot. `Attended` says that an operation that waits has been woken, or has its waker in
the slot of a queue that is empty; it is kept by every step that does not overwrite
another operation's waker. -/
theorem wakeups_arrive (profile : Profile) :
    (∀ (start : Connection κ ρ) past operations,
      Run (Operations.step (Connection.pops profile)) ⟨start, [], []⟩ past operations →
      Meets (Operations.Respects (Connection.pops profile)) past →
        operations.state.cb.receiver.recvQueue ≠ [] → operations.pending ≠ [] →
          ∃ operation ∈ operations.pending, operation ∈ operations.notified) ∧
    ∀ (start : Listener κ ρ) past operations,
      Run (Operations.step (Listener.waitingAccepts profile)) ⟨start, [], []⟩ past operations →
      Meets (Operations.Respects (Listener.waitingAccepts profile)) past →
        operations.state.passive.ready.ready ≠ [] → operations.pending ≠ [] →
          ∃ operation ∈ operations.pending, operation ∈ operations.notified := by
  constructor
  · intro start past operations run respects queued waiting
    refine (Operations.attended_run (Connection.pops_lawful profile) run respects).notified ?_ waiting
    simpa only [Connection.pops, Bool.not_eq_true', List.isEmpty_eq_false_iff] using queued
  · intro start past operations run respects queued waiting
    refine (Operations.attended_run (Listener.waitingAccepts_lawful profile) run
      respects).notified ?_ waiting
    simpa only [Listener.waitingAccepts, Bool.not_eq_true', List.isEmpty_eq_false_iff] using queued

/-- A pop waits, data arrives, another pop takes it and waits with its next poll, and more data
arrives. -/
def popsByTurns : List (Act Action Waker) := [
  .act (.pollRecv 1), .act (.segment 100 1000 [7] false),
  .act (.pollRecv 2), .act (.pollRecv 2), .act (.segment 101 1000 [8] false)]

/-- The same with accepts and the connections of two clients. -/
def acceptsByTurns : List (Act (ListenerAction NoCongestionControl IntegerRto) Waker) := [
  .act (.accept 1), .act (Listener.sampleSegment true false none),
  .act (Listener.sampleSegment false false (some 8)), .act (.accept 2), .act (.accept 2),
  .act (.segment 7 ⟨0x0a00000a#32, 0x0a000001#32⟩ (Listener.sampleHeader true false none)),
  .act (.segment 7 ⟨0x0a00000a#32, 0x0a000001#32⟩ (Listener.sampleHeader false false (some 9)))]

/-- Two operations are pending and none has overwritten the waker of the other, since the
first one has been woken before the second one waits: something is in the queue, and an
operation that is pending has been woken. -/
theorem wakeups_arrive_by_turns :
    (∃ past operations, execute (Operations.step (Connection.pops .dev))
        ([], ⟨Connection.sample 1000 1000 536, [], []⟩) popsByTurns = .ok (past, operations) ∧
      operations.pending = [2, 1] ∧
      ∃ operation ∈ operations.pending, operation ∈ operations.notified) ∧
    ∃ past operations, execute (Operations.step (Listener.waitingAccepts .dev))
        ([], ⟨Listener.sample, [], []⟩) acceptsByTurns = .ok (past, operations) ∧
      operations.pending = [2, 1] ∧
      ∃ operation ∈ operations.pending, operation ∈ operations.notified := by
  obtain ⟨pops, accepts⟩ := @wakeups_arrive NoCongestionControl IntegerRto _ _ .dev
  have popping : ∃ past operations, execute (Operations.step (Connection.pops .dev))
        ([], ⟨Connection.sample 1000 1000 536, [], []⟩) popsByTurns = .ok (past, operations) ∧
      Meets (Operations.Respects (Connection.pops .dev)) past ∧ operations.pending = [2, 1] ∧
      operations.state.cb.receiver.recvQueue ≠ [] := by
    refine ⟨_, _, rfl, ?_, rfl, List.cons_ne_nil _ _⟩
    simp only [meets_cons]
    refine ⟨?_, ?_, ?_, ?_, ?_, meets_nil _⟩
    · rintro operation ⟨⟩
    -- The second pop waits: the slot is empty, for the first pop has been woken.
    · rintro operation - - other - ⟨⟩
    · rintro operation - ⟨⟩
    · rintro operation ⟨⟩
    · rintro operation - - other ⟨⟩
  have accepting : ∃ past operations, execute (Operations.step (Listener.waitingAccepts .dev))
        ([], ⟨Listener.sample, [], []⟩) acceptsByTurns = .ok (past, operations) ∧
      Meets (Operations.Respects (Listener.waitingAccepts .dev)) past ∧
      operations.pending = [2, 1] ∧ operations.state.passive.ready.ready ≠ [] := by
    refine ⟨_, _, rfl, ?_, rfl, List.cons_ne_nil _ _⟩
    simp only [meets_cons]
    refine ⟨?_, ?_, ?_, ?_, ?_, ?_, ?_, meets_nil _⟩
    · rintro operation ⟨⟩
    · rintro operation ⟨⟩
    · rintro operation - - other - ⟨⟩
    · rintro operation - ⟨⟩
    · rintro operation ⟨⟩
    · rintro operation ⟨⟩
    · rintro operation - - other ⟨⟩
  constructor
  · obtain ⟨past, operations, executed, respects, both, queued⟩ := popping
    exact ⟨past, operations, executed, both, pops _ past operations (run_of_execute .nil executed)
      respects queued (both ▸ List.cons_ne_nil _ _)⟩
  · obtain ⟨past, operations, executed, respects, both, queued⟩ := accepting
    exact ⟨past, operations, executed, both, accepts _ past operations
      (run_of_execute .nil executed) respects queued (both ▸ List.cons_ne_nil _ _)⟩

/-- Two pops wait; the second takes the first buffer that arrives, and the next one wakes
nobody although the first pop still waits. -/
theorem wakeup_lost :
    ∃ past operations,
      execute (Operations.step (Connection.pops .dev)) ([], ⟨Connection.sample 1000 1000 536, [], []⟩)
        [.act (.pollRecv 1), .act (.pollRecv 2), .act (.segment 100 1000 [7] false),
          .act (.pollRecv 2), .act (.segment 101 1000 [8] false)] = .ok (past, operations) ∧
      operations.state.cb.receiver.recvQueue = [[8]] ∧ operations.pending = [1] ∧
      operations.notified = [] :=
  ⟨_, _, rfl, rfl, rfl, rfl⟩

end Capybara
