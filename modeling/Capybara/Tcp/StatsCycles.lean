import Capybara.Tcp.StatsConsistency

/-!
# Handles that are enabled again

What a handle was given last is known from the past: the value with which it was enabled,
or a later one that was set. A poll makes the statistics those of the values given last
unless some handle was enabled while the cells still held something else: a value that was
set before it was disabled is taken over by the next poll, and a handle that is only marked
keeps its old value in the total and its old bucket.
-/

namespace Capybara

open Runs Positions

namespace Stats

variable {stats after : Stats} {handle : Nat} {past : List (Transition Stats StatsAction)}

/-- The handles that were in a bucket are given zero by `reset_stats`. -/
def isBucketed (stats : Stats) (handle : Nat) : Bool := handle ∈ stats.buckets.flatten

/-- The value that a handle was given last, since it was enabled. -/
def given : List (Transition Stats StatsAction) → Nat → Nat
  | [], _ => 0
  | transition :: past, handle =>
    match transition.action with
    | .enable enabled useOldValue initialVal =>
      if handle = enabled then transition.source.initial handle useOldValue initialVal
      else given past handle
    | .set changed val => if handle = changed then val else given past handle
    | .increment changed => if handle = changed then given past handle + 1 else given past handle
    | .resetStats => if transition.source.isBucketed handle then 0 else given past handle
    | .disable _ => given past handle
    | .poll => given past handle

/-- An enabled handle is given its initial value, and the others keep theirs. -/
theorem given_enable (useOldValue : Bool) (initialVal other : Nat) :
    given (⟨stats, .enable handle useOldValue initialVal, after⟩ :: past) other =
      if other = handle then stats.initial other useOldValue initialVal else given past other :=
  rfl

/-- A poll makes the statistics those of the values given last: the handles that are left are
enabled, each with its value and in the bucket of that, and the total is the sum. -/
def PolledExactly (past : List (Transition Stats StatsAction)) (stats : Stats) : Prop :=
  ∃ after, stats.poll = .ok after ∧ after.handles.Nodup ∧
    (∀ handle, handle ∈ after.handles ↔ ∃ val, (after.inner handle).stat = .enabled val) ∧
    after.globalStat = (after.handles.map (given past)).sum ∧
    ∀ handle ∈ after.handles, (after.inner handle).stat = .enabled (given past handle) ∧
      (0 < given past handle →
        ∃ column, entry after.buckets (given past handle >>> 3, column) = some handle)

/-- A handle is enabled with nothing else left in its cells: no other value waits for the next
poll, and unless it has been removed by one, it is worth nothing and stays so. -/
def Cleared (stats : Stats) : StatsAction → Prop
  | .enable handle useOldValue initialVal =>
    (stats.inner handle).statToUpdate.getD (stats.initial handle useOldValue initialVal) =
      stats.initial handle useOldValue initialVal ∧
    ((stats.inner handle).stat = .disabled ∨
      (stats.inner handle).stat.value = 0 ∧ stats.initial handle useOldValue initialVal = 0)
  | _ => True

instance (stats : Stats) : (action : StatsAction) → Decidable (stats.Cleared action)
  | .enable _ _ _ => inferInstanceAs (Decidable (_ ∧ _))
  | .set .. | .increment _ | .disable _ | .poll | .resetStats => isTrue trivial

/-! ## A poll right now -/

/-- The statistics are exact, and polling gives every enabled handle what it was given. -/
structure UpToDate (past : List (Transition Stats StatsAction)) (stats : Stats) : Prop where
  indexed : stats.Indexed
  exact : stats.Exact
  latest : ∀ handle val, stats.stat handle = .enabled val →
    (stats.pending handle).getD val = given past handle

/-- After a poll the handles are those that are enabled. -/
theorem mem_polled (indexed : after.Indexed) (polled : Polled stats after) :
    handle ∈ after.handles ↔ ∃ val, stats.stat handle = .enabled val := by
  rw [indexed.tracked, polled.stat, polledStat]
  cases here : stats.stat handle with
  | disabled => simp
  | markedForDisable val => simp
  | enabled val => simp

/-- After a poll the handles that are left are the enabled ones. -/
theorem enabled_polled (indexed : after.Indexed) (polled : Polled stats after) :
    handle ∈ after.handles ↔ ∃ val, (after.inner handle).stat = .enabled val := by
  have stat : (after.inner handle).stat = stats.polledStat handle := polled.stat handle
  rw [mem_polled indexed polled, stat, polledStat]
  cases here : stats.stat handle with
  | disabled => simp
  | markedForDisable val => simp
  | enabled val => simp

/-- Statistics that are up to date are polled exactly. -/
theorem UpToDate.polled (holds : UpToDate past stats) : PolledExactly past stats := by
  obtain ⟨after, polls, indexed, polled⟩ := poll_returns holds.indexed
  have exact := polled.exact holds.exact
  have values : ∀ handle ∈ after.handles, after.stat handle = .enabled (given past handle) := by
    intro handle member
    obtain ⟨val, enabled⟩ := (mem_polled indexed polled).mp member
    rw [polled.stat, polledStat, enabled]
    dsimp only
    rw [holds.latest handle val enabled]
  refine ⟨after, polls, indexed.once, fun handle => enabled_polled indexed polled, ?_, ?_⟩
  · rw [exact.total, total]
    refine congrArg List.sum (List.map_congr_left fun handle member => ?_)
    rw [value, values handle member, Stat.value]
  · intro handle member
    refine ⟨values handle member, fun positive => ?_⟩
    have bucket := exact.sorted handle
    rw [value, values handle member, Stat.value, bucketOf, if_pos positive, Stats.bucket,
      Option.map_eq_some_iff] at bucket
    obtain ⟨⟨row, column⟩, here, same⟩ := bucket
    refine ⟨column, (indexed.positioned handle _).mp ?_⟩
    exact here.trans (congrArg (fun row => some (row, column)) same)

/-- What a poll that is exact says about a handle that is enabled before it. -/
theorem PolledExactly.enabled {val : Nat} (exactly : PolledExactly past stats)
    (indexed : stats.Indexed) (enabled : stats.stat handle = .enabled val) :
    (stats.pending handle).getD val = given past handle ∧
      (0 < given past handle →
        stats.polledBucket handle = some (given past handle >>> BUCKET_SIZE_LOG2)) ∧
      stats.globalStat = stats.total := by
  obtain ⟨after, polls, indexed', polled⟩ := poll_returns indexed
  obtain ⟨after', polls', -, -, sum, values⟩ := exactly
  cases polls.symm.trans polls'
  have member := (mem_polled indexed' polled).mpr ⟨val, enabled⟩
  obtain ⟨stat, bucket⟩ := values handle member
  have taken : Stat.enabled ((stats.pending handle).getD val) = .enabled (given past handle) := by
    rw [← stat]
    refine Eq.trans ?_ (polled.stat handle).symm
    rw [polledStat, enabled]
  refine ⟨Stat.enabled.inj taken, fun positive => ?_, ?_⟩
  · obtain ⟨column, found⟩ := bucket positive
    rw [← polled.bucket, Stats.bucket, (indexed'.positioned handle _).mpr found]
    rfl
  · have total : after.total = (after.handles.map (given past)).sum := by
      refine congrArg List.sum (List.map_congr_left fun other among => ?_)
      have stat : after.stat other = .enabled (given past other) := (values other among).1
      rw [value, stat, Stat.value]
    have moved := polled.total
    omega

/-! ## One action -/

/-- `set` gives the handle its value, to be taken by the next poll. -/
theorem set_spec (stats : Stats) (handle val : Nat) :
    (stats.set handle val).stat = stats.stat ∧
      ∀ other old, stats.stat other = .enabled old → ((stats.set handle val).pending other).getD old =
        if other = handle then val else (stats.pending other).getD old := by
  unfold set
  split
  · refine ⟨stat_setStatToUpdate _, fun other old _ => ?_⟩
    rw [pending_setStatToUpdate, Function.update_apply]
    split
    · rfl
    · rfl
  · rename_i disabled
    refine ⟨rfl, fun other old enabled => ?_⟩
    rw [if_neg]
    rintro rfl
    exact disabled old enabled

/-- `increment` gives the handle one more than it would have. -/
theorem increment_spec (stats : Stats) (handle : Nat) :
    (stats.increment handle).stat = stats.stat ∧
      ∀ other old, stats.stat other = .enabled old → ((stats.increment handle).pending other).getD old =
        if other = handle then (stats.pending other).getD old + 1 else (stats.pending other).getD old := by
  have changed (new : Nat) (same : ∀ old, stats.stat handle = .enabled old →
      new = (stats.pending handle).getD old + 1) :
      (stats.setStatToUpdate handle (some new)).stat = stats.stat ∧
        ∀ other old, stats.stat other = .enabled old →
          ((stats.setStatToUpdate handle (some new)).pending other).getD old =
            if other = handle then (stats.pending other).getD old + 1
            else (stats.pending other).getD old := by
    refine ⟨stat_setStatToUpdate _, fun other old enabled => ?_⟩
    rw [pending_setStatToUpdate, Function.update_apply]
    split
    · rename_i self
      subst self
      rw [Option.getD_some, same old enabled]
    · rfl
  unfold increment
  cases here : (stats.inner handle).stat with
  | disabled =>
    refine ⟨rfl, fun other old enabled => ?_⟩
    rw [if_neg]
    rintro rfl
    cases here.symm.trans enabled
  | markedForDisable val =>
    refine ⟨rfl, fun other old enabled => ?_⟩
    rw [if_neg]
    rintro rfl
    cases here.symm.trans enabled
  | enabled val =>
    dsimp only
    cases waiting : (stats.inner handle).statToUpdate with
    | none =>
      refine changed _ fun old enabled => ?_
      cases here.symm.trans enabled
      rw [pending, waiting]
      rfl
    | some new =>
      refine changed _ fun old enabled => ?_
      rw [pending, waiting]
      rfl

/-- `reset_stats` gives zero to the handles in the buckets. -/
theorem resetStats_spec (stats : Stats) :
    stats.resetStats.stat = stats.stat ∧
      ∀ other old, (stats.resetStats.pending other).getD old =
        if stats.isBucketed other then 0 else (stats.pending other).getD old := by
  unfold resetStats isBucketed
  generalize stats.buckets.flatten = handles
  induction handles generalizing stats with
  | nil => exact ⟨rfl, fun other old => by simp⟩
  | cons handle handles inductionHypothesis =>
    obtain ⟨stat, others⟩ := inductionHypothesis (stats.setStatToUpdate handle (some 0))
    refine ⟨stat.trans (stat_setStatToUpdate _), fun other old => ?_⟩
    rw [List.foldl_cons, others, pending_setStatToUpdate, Function.update_apply]
    by_cases self : other = handle
    · simp [self]
    · simp [self]

/-- `disable` drops no update that waits and enables nobody. -/
theorem disable_spec (stats : Stats) (handle : Nat) :
    (stats.disable handle).pending = stats.pending ∧
      ∀ other old, (stats.disable handle).stat other = .enabled old → stats.stat other = .enabled old := by
  unfold disable
  split
  · rename_i val here
    refine ⟨?_, fun other old enabled => ?_⟩
    · exact ((pending_setStatRightBeforeDisable _).trans (pending_setHandlesIndex _)).trans
        (pending_setStat _)
    · have stat : ((((stats.setStat handle (.markedForDisable val)).setHandlesIndex handle
          none).setStatRightBeforeDisable handle (some val)).stat) =
          Function.update stats.stat handle (.markedForDisable val) :=
        ((stat_setStatRightBeforeDisable _).trans (stat_setHandlesIndex _)).trans (stat_setStat _)
      rw [stat, Function.update_apply] at enabled
      split at enabled
      · cases enabled
      · exact enabled
  · exact ⟨rfl, fun _ _ => id⟩

/-! ## Runs -/

/-- New statistics are up to date. -/
theorem UpToDate.new : UpToDate [] new where
  indexed := .new
  exact := .new
  latest _ _ enabled := nomatch enabled

/-- An action that does not enable keeps what the handles were given, and so does one that
enables a handle with nothing else left in its cells. -/
theorem UpToDate.step {action : StatsAction} (holds : UpToDate past stats)
    (advanced : stats.step action = .ok after) (cleared : stats.Cleared action) :
    UpToDate (⟨stats, action, after⟩ :: past) after := by
  have latest := holds.latest
  cases action with
  | set handle val =>
    cases advanced
    obtain ⟨stat, pending⟩ := set_spec stats handle val
    refine ⟨set_undisturbed.indexed holds.indexed, set_undisturbed.exact holds.exact, ?_⟩
    intro other old enabled
    rw [stat] at enabled
    rw [pending other old enabled, latest other old enabled, given]
  | increment handle =>
    cases advanced
    obtain ⟨stat, pending⟩ := increment_spec stats handle
    refine ⟨increment_undisturbed.indexed holds.indexed, increment_undisturbed.exact holds.exact, ?_⟩
    intro other old enabled
    rw [stat] at enabled
    rw [pending other old enabled, latest other old enabled, given]
  | resetStats =>
    cases advanced
    obtain ⟨stat, pending⟩ := resetStats_spec stats
    refine ⟨resetStats_undisturbed.indexed holds.indexed,
      resetStats_undisturbed.exact holds.exact, ?_⟩
    intro other old enabled
    rw [stat] at enabled
    rw [pending other old, latest other old enabled, given]
  | disable handle =>
    cases advanced
    obtain ⟨pending, stat⟩ := disable_spec stats handle
    refine ⟨disable_undisturbed.indexed holds.indexed, disable_undisturbed.exact holds.exact, ?_⟩
    intro other old enabled
    rw [pending, latest other old (stat other old enabled), given]
  | poll =>
    obtain ⟨polled_, polls, indexed, polled⟩ := poll_returns holds.indexed
    cases polls.symm.trans advanced
    refine ⟨indexed, polled.exact holds.exact, ?_⟩
    intro other old enabled
    rw [polled.stat, polledStat] at enabled
    cases here : stats.stat other with
    | disabled => simp [here] at enabled
    | markedForDisable val => simp [here] at enabled
    | enabled val =>
      simp only [here, Stat.enabled.injEq] at enabled
      have nothing : stats.polledPending other = none := by rw [polledPending, here]
      rw [polled.pending, nothing, Option.getD_none, ← enabled, latest other val here, given]
  | enable handle useOldValue initialVal =>
    obtain ⟨clear, unmarked⟩ := cleared
    obtain ⟨enabled_, enables, indexed, pending, changes⟩ :=
      enable_returns holds.indexed useOldValue initialVal (not_enabled advanced)
    cases enables.symm.trans advanced
    refine ⟨indexed, ?_, ?_⟩
    · have sorted := holds.exact.sorted handle
      obtain disabled | ⟨worthless, nothing⟩ := unmarked
      · have disabled : stats.stat handle = .disabled := disabled
        rw [if_pos disabled, value, disabled] at changes
        exact changes.exact holds.exact rfl
      · have worthless : stats.value handle = 0 := worthless
        rw [worthless, nothing] at changes
        rw [worthless] at sorted
        refine changes.exact holds.exact ?_
        split
        · rfl
        · exact sorted
    · intro other old enabled
      rw [changes.stat, Function.update_apply] at enabled
      rw [pending, given_enable]
      split at enabled
      · rename_i self
        obtain rfl := Stat.enabled.inj enabled
        rw [if_pos self, self]
        exact clear
      · rename_i different
        rw [if_neg different]
        exact latest other old enabled

/-- A handle that is enabled with something else left in its cells shows in the next poll. -/
theorem UpToDate.destroyed {action : StatsAction} (holds : UpToDate past stats)
    (advanced : stats.step action = .ok after) (uncleared : ¬ stats.Cleared action) :
    ¬ PolledExactly (⟨stats, action, after⟩ :: past) after := by
  intro exactly
  apply uncleared
  cases action with
  | set handle val => trivial
  | increment handle => trivial
  | disable handle => trivial
  | poll => trivial
  | resetStats => trivial
  | enable handle useOldValue initialVal =>
    obtain ⟨enabled_, enables, indexed, pending, changes⟩ :=
      enable_returns holds.indexed useOldValue initialVal (not_enabled advanced)
    cases enables.symm.trans advanced
    have enabled : after.stat handle =
        .enabled (stats.initial handle useOldValue initialVal) := by
      rw [changes.stat, Function.update_self]
    obtain ⟨taken, bucket, total⟩ := exactly.enabled indexed enabled
    rw [given_enable, if_pos rfl] at taken bucket
    have clear := taken
    rw [pending] at clear
    refine ⟨clear, ?_⟩
    by_cases disabled : stats.stat handle = .disabled
    · exact .inl disabled
    have worthless : stats.value handle = 0 := by
      have before := holds.exact.total
      have moved := changes.total
      omega
    refine .inr ⟨worthless, ?_⟩
    by_contra positive
    have placed := bucket (Nat.pos_of_ne_zero positive)
    have sorted := holds.exact.sorted handle
    rw [worthless, bucketOf, if_neg (Nat.lt_irrefl 0)] at sorted
    rw [polledBucket, enabled] at placed
    dsimp only at placed
    rw [taken, replacedBucket, if_pos rfl, changes.bucket, if_pos rfl, if_neg disabled, sorted]
      at placed
    cases placed

/-- Handles that are disabled and enabled again. In a run, a poll in any state makes the
statistics those of the values given last exactly if every handle was enabled with nothing
else left in its cells.

Proof: the rule for runs in which a property always holds exactly under a condition,
with the invariant `UpToDate`. A poll in an up-to-date state is exact, an action with
cleared cells keeps the state up to date, and after any other one the next poll is not
exact. -/
theorem polled_exactly_iff (run : Run Stats.step new past stats) :
    Always PolledExactly new past ↔ Meets Cleared past :=
  always_iff .new (fun _ _ => UpToDate.polled) (fun _ _ _ _ => UpToDate.step)
    (fun _ _ _ _ => UpToDate.destroyed) run

/-- A handle that is disabled and enabled again behind a poll, with its old value. -/
theorem polled_exactly_old_value :
    ∃ past stats, execute Stats.step ([], new) [.enable 0 false 5, .set 0 9, .poll, .disable 0, .poll,
        .enable 0 true 0, .increment 0] = .ok (past, stats) ∧
      Always PolledExactly new past ∧ given past 0 = 10 := by
  have executed : ∃ past stats, execute Stats.step ([], new) [.enable 0 false 5, .set 0 9, .poll,
      .disable 0, .poll, .enable 0 true 0, .increment 0] = .ok (past, stats) ∧
      Meets Cleared past ∧ given past 0 = 10 := ⟨_, _, rfl, by decide, by decide⟩
  obtain ⟨past, stats, executed, cleared, ten⟩ := executed
  exact ⟨past, stats, executed, (polled_exactly_iff (run_of_execute .nil executed)).mpr cleared, ten⟩

/-- A handle that is enabled again before the poll counts twice, and a value that was set
before the handle was disabled is taken over after it has been enabled. -/
theorem not_polled_exactly :
    (∃ past stats, execute Stats.step ([], new) [.enable 0 false 5, .disable 0, .enable 0 false 5] =
        .ok (past, stats) ∧ ¬ PolledExactly past stats) ∧
    ∃ past stats, execute Stats.step ([], new) [.enable 0 false 5, .set 0 9, .disable 0, .poll,
        .enable 0 false 5] = .ok (past, stats) ∧ ¬ PolledExactly past stats := by
  refine ⟨⟨_, _, rfl, ?_⟩, _, _, rfl, ?_⟩
  · rintro ⟨after, polls, -, -, total, -⟩
    cases polls
    exact absurd total (by decide)
  · rintro ⟨after, polls, -, -, -, values⟩
    cases polls
    exact absurd (values 0 (by decide)).1 (by decide)

end Stats

end Capybara
