import Capybara.Tcp.StatsConsistency
import Mathlib.Algebra.Order.BigOperators.Group.List
import Mathlib.Algebra.Order.Group.Nat

/-!
# The statistics fit their words

The counters of the source are `usize` and those of the model are natural numbers. Here
are the sums that an action forms, each with the operands that it has at that point. As
long as the total and the values that wait stay below `2 ^ 57`, no sum reaches `2 ^ 64`:
neither an overflow check nor a wrap makes a difference, and the two kinds of numbers
agree. The largest sum is that of the rolling average, which is over `2 ^ 7` totals.

A difference is checked in the model as it is in the source, and the selection subtracts
only what the total contains.
-/

namespace Capybara

open Runs

/-- The sum that `RollingAverage::update` forms. -/
def RollingAverage.sums (average : RollingAverage) (value : Nat) : List Nat :=
  match average.values with
  | [] => []
  | oldest :: _ => [average.sum - oldest + value]

namespace Stats

/-- The sum that one round of the loop of `poll` forms, if a value replaces another one. -/
def pollRoundSums (stats : Stats) (i : Nat) : List Nat :=
  match stats.handles[i]? with
  | none => []
  | some handle =>
    match (stats.inner handle).stat, (stats.inner handle).statToUpdate with
    | .enabled stat, some statToUpdate =>
      if statToUpdate = stat then [] else [stats.globalStat + statToUpdate]
    | _, _ => []

/-- The sums that the loop of `poll` forms in a number of rounds. -/
def pollLoopSums : Nat → Nat → Stats → List Nat
  | 0, _, _ => []
  | rounds + 1, i, stats =>
    if i < stats.handles.length then
      stats.pollRoundSums i ++
        match stats.pollRound i with
        | .error _ => []
        | .ok (i, stats) => pollLoopSums rounds i stats
    else []

/-- The sums that an action forms. -/
def sums (stats : Stats) : StatsAction → List Nat
  | .increment handle =>
    match (stats.inner handle).stat with
    | .enabled val => [(stats.inner handle).statToUpdate.getD val + 1]
    | _ => []
  | .enable handle useOldValue initialVal =>
    [stats.globalStat + stats.initial handle useOldValue initialVal]
  | .poll =>
    pollLoopSums stats.handles.length 0 stats ++
      match pollLoop stats.handles.length 0 stats with
      | .error _ => []
      | .ok polled => polled.avgGlobalStat.sums polled.globalStat
  | .set .. | .disable _ | .resetStats => []

/-- What waits for a handle to be polled. -/
def waiting (stats : Stats) (handle : Nat) : Nat := (stats.pending handle).getD 0

/-- The total, and what waits for the handles from an index on. -/
def ahead (stats : Stats) (i : Nat) : Nat :=
  stats.globalStat + ((stats.handles.drop i).map stats.waiting).sum

/-- The total and all that waits. -/
def load (stats : Stats) : Nat := stats.ahead 0

variable {stats after : Stats} {handle i : Nat}

/-- What waits for a handle behind the index is a part of what is ahead. -/
theorem waiting_le_ahead (member : handle ∈ stats.handles.drop i) :
    stats.globalStat + stats.waiting handle ≤ stats.ahead i :=
  Nat.add_le_add_left (List.le_sum_of_mem (List.mem_map_of_mem member)) _

/-- The total is a part of the load. -/
theorem globalStat_le_load (stats : Stats) : stats.globalStat ≤ stats.load := Nat.le_add_right _ _

/-! ## One round -/

/-- If one handle changes without a surplus, the total moves as its value does. The other
handles are tracked before and after, and those that are not have no value. -/
theorem globalStat_of_changes {stat : Stat} {bucket : Option Nat} (indexed : stats.Indexed)
    (indexed' : after.Indexed) (tracked : handle ∈ stats.handles)
    (changes : Changes stats handle stat bucket 0 after) :
    after.globalStat + stats.value handle = stats.globalStat + stat.value := by
  have values := value_of_stat changes.stat
  have others : (stats.handles.erase handle).Perm (after.handles.erase handle) := by
    refine (List.perm_ext_iff_of_nodup (indexed.once.erase _) (indexed'.once.erase _)).mpr ?_
    intro other
    rw [indexed.once.mem_erase_iff, indexed'.once.mem_erase_iff, indexed.tracked, indexed'.tracked,
      changes.stat]
    refine and_congr_right fun different => ?_
    rw [Function.update_of_ne different]
  have before : stats.total = stats.value handle +
      ((stats.handles.erase handle).map stats.value).sum := by
    rw [total, ((List.perm_cons_erase tracked).map _).sum_eq, List.map_cons, List.sum_cons]
  have rest : ((after.handles.erase handle).map after.value).sum =
      ((stats.handles.erase handle).map stats.value).sum := by
    rw [(others.map stats.value).sum_eq]
    refine congrArg List.sum (List.map_congr_left fun other among => ?_)
    rw [values, Function.update_of_ne (indexed'.once.mem_erase_iff.mp among).1]
  have behind : after.total = stat.value + ((after.handles.erase handle).map after.value).sum := by
    have own : after.value handle = stat.value := by rw [values, Function.update_self]
    by_cases member : handle ∈ after.handles
    · rw [total, ((List.perm_cons_erase member).map _).sum_eq, List.map_cons, List.sum_cons, own]
    · have disabled : after.stat handle = .disabled :=
        not_not.mp (mt (indexed'.tracked handle).mpr member)
      rw [changes.stat, Function.update_self] at disabled
      rw [total, List.erase_of_not_mem member, disabled, Stat.value, Nat.zero_add]
  have moved := changes.total
  omega

/-- A polled value is the old one or what waited. -/
theorem polledStat_le (stats : Stats) (handle : Nat) :
    (stats.polledStat handle).value ≤ stats.value handle + stats.waiting handle := by
  rw [polledStat, value, waiting]
  cases stats.stat handle with
  | disabled => exact Nat.zero_le _
  | markedForDisable val => exact Nat.zero_le _
  | enabled val =>
    cases stats.pending handle with
    | none => exact Nat.le_add_right _ _
    | some new => exact Nat.le_add_left _ _

/-- A round takes from what is ahead what it adds to the total. -/
theorem PolledRound.ahead_le {next : Nat} (indexed : stats.Indexed)
    (round : PolledRound stats i next after) : after.ahead next ≤ stats.ahead i := by
  obtain ⟨indexed', -, handle, among, changes, pending, behind⟩ := round
  have absent : handle ∉ after.handles.drop next := fun wrong => ((behind handle).mp wrong).2 rfl
  have perm : (stats.handles.drop i).Perm (handle :: after.handles.drop next) := by
    refine (List.perm_ext_iff_of_nodup (indexed.once.sublist (List.drop_sublist _ _))
      (List.nodup_cons.mpr ⟨absent, indexed'.once.sublist (List.drop_sublist _ _)⟩)).mpr ?_
    intro other
    rw [List.mem_cons, behind]
    by_cases same : other = handle
    · exact iff_of_true (same ▸ among) (.inl same)
    · exact ⟨fun member => .inr ⟨member, same⟩, fun either => (either.resolve_left same).1⟩
  have waits : ((after.handles.drop next).map after.waiting).sum =
      ((after.handles.drop next).map stats.waiting).sum := by
    refine congrArg List.sum (List.map_congr_left fun other member => ?_)
    have different : other ≠ handle := fun same => absent (same ▸ member)
    rw [waiting, pending, Function.update_of_ne different, waiting]
  have moved := globalStat_of_changes indexed indexed' (List.mem_of_mem_drop among) changes
  have grows := stats.polledStat_le handle
  rw [ahead, ahead, waits, (perm.map _).sum_eq, List.map_cons, List.sum_cons]
  omega

/-- The sum that a round forms is a part of what is ahead. -/
theorem pollRoundSums_le : ∀ sum ∈ stats.pollRoundSums i, sum ≤ stats.ahead i := by
  intro sum member
  unfold pollRoundSums at member
  cases found : stats.handles[i]? with
  | none =>
    rw [found] at member
    cases member
  | some handle =>
    rw [found] at member
    dsimp only at member
    split at member
    · rename_i stat statToUpdate enabled waits
      split at member
      · cases member
      · obtain rfl := List.mem_singleton.mp member
        have own : stats.waiting handle = statToUpdate := by
          rw [waiting, pending, waits, Option.getD_some]
        rw [← own]
        refine waiting_le_ahead ?_
        rw [handles_drop found]
        exact List.mem_cons_self
    · cases member

/-- So is every sum of the loop. By induction on the rounds: what is ahead does not grow. -/
theorem pollLoopSums_le {rounds : Nat} (indexed : stats.Indexed) :
    ∀ sum ∈ pollLoopSums rounds i stats, sum ≤ stats.ahead i := by
  induction rounds generalizing stats i with
  | zero =>
    intro sum member
    cases member
  | succ rounds inductionHypothesis =>
    intro sum member
    rw [pollLoopSums] at member
    split at member
    · rename_i inside
      obtain ⟨next, middle, advances, round⟩ := pollRound_returns indexed inside
      rw [advances, List.mem_append] at member
      obtain here | later := member
      · exact pollRoundSums_le sum here
      · exact Nat.le_trans (inductionHypothesis round.indexed sum later) (round.ahead_le indexed)
    · cases member

/-- The loop leaves the average alone, and no more in the total than was ahead. -/
theorem pollLoop_within {rounds : Nat} (indexed : stats.Indexed)
    (loops : pollLoop rounds i stats = .ok after) :
    after.avgGlobalStat = stats.avgGlobalStat ∧ after.globalStat ≤ stats.ahead i := by
  induction rounds generalizing stats i with
  | zero =>
    cases loops
    exact ⟨rfl, Nat.le_add_right _ _⟩
  | succ rounds inductionHypothesis =>
    rw [pollLoop] at loops
    split at loops
    · rename_i inside
      obtain ⟨next, middle, advances, round⟩ := pollRound_returns indexed inside
      rw [advances] at loops
      obtain ⟨average, within⟩ := inductionHypothesis round.indexed loops
      have less := round.ahead_le indexed
      obtain ⟨-, -, handle, -, changes, -⟩ := round
      exact ⟨average.trans changes.average, Nat.le_trans within less⟩
    · cases loops
      exact ⟨rfl, Nat.le_add_right _ _⟩

/-! ## The rolling average -/

/-- A full window of values within a bound, and their sum. -/
structure Windowed (average : RollingAverage) (bound : Nat) : Prop where
  sound : average.Sound
  length : average.values.length = 2 ^ 7
  within : ∀ value ∈ average.values, value ≤ bound

/-- The sum of a window is at most that of as many bounds. -/
theorem Windowed.sum_le {average : RollingAverage} {bound : Nat} (windowed : Windowed average bound) :
    average.sum ≤ 2 ^ 7 * bound := by
  rw [windowed.sound.sum, ← windowed.length]
  exact List.sum_le_card_nsmul _ _ windowed.within

/-- An update within the bound keeps the window, and forms the sum that it stores. -/
theorem Windowed.update {average after : RollingAverage} {bound value : Nat}
    (windowed : Windowed average bound) (small : value ≤ bound)
    (updates : average.update value = .ok after) :
    Windowed after bound ∧ average.sums value = [after.sum] := by
  obtain ⟨sound, length, within⟩ := windowed
  obtain ⟨after', updates', sound'⟩ := sound.update value
  obtain rfl := Except.ok.inj (updates.symm.trans updates')
  unfold RollingAverage.update at updates
  rw [RollingAverage.sums]
  cases values : average.values with
  | nil => exact absurd values sound.window
  | cons oldest rest =>
    rw [values] at updates length within
    dsimp only at updates ⊢
    split at updates
    · cases updates
    · cases updates
      refine ⟨⟨sound', ?_, fun other member => ?_⟩, rfl⟩
      · rw [List.length_append]
        exact length
      · obtain earlier | newest := List.mem_append.mp member
        · exact within other (List.mem_cons_of_mem _ earlier)
        · exact List.mem_singleton.mp newest ▸ small

/-- A new window is full of zeros. -/
theorem Windowed.new (bound : Nat) : Windowed .new bound where
  sound := .new
  length := List.length_replicate
  within _ member := List.eq_of_mem_replicate member ▸ Nat.zero_le _

/-! ## Actions and runs -/

/-- What a handle is incremented to waits for it afterwards. -/
theorem increment_sums_le (indexed : stats.Indexed) :
    ∀ sum ∈ stats.sums (.increment handle), sum ≤ (stats.increment handle).load := by
  intro sum member
  rw [sums] at member
  unfold increment
  cases here : (stats.inner handle).stat with
  | disabled | markedForDisable val =>
    rw [here] at member
    cases member
  | enabled val =>
    rw [here] at member
    obtain rfl := List.mem_singleton.mp member
    have tracked : handle ∈ stats.handles := by
      rw [indexed.tracked, stat, here]
      rintro ⟨⟩
    have waits (new : Nat) : new ≤ (stats.setStatToUpdate handle (some new)).load := by
      have own : (stats.setStatToUpdate handle (some new)).waiting handle = new := by
        rw [waiting, pending_setStatToUpdate, Function.update_self, Option.getD_some]
      have among : handle ∈ (stats.setStatToUpdate handle (some new)).handles.drop 0 := tracked
      have part := waiting_le_ahead among
      rw [own] at part
      exact Nat.le_trans (Nat.le_add_left _ _) part
    dsimp only
    cases (stats.inner handle).statToUpdate with
    | none => exact waits _
    | some new => exact waits _

/-- Enabling a handle adds its first value to the total, and leaves the average alone. -/
theorem enable_sums {useOldValue : Bool} {initialVal : Nat}
    (enables : stats.enable handle useOldValue initialVal = .ok after) :
    stats.sums (.enable handle useOldValue initialVal) = [after.globalStat] ∧
    after.avgGlobalStat = stats.avgGlobalStat := by
  rw [sums]
  unfold enable at enables
  dsimp only at enables
  rw [← initial] at enables
  cases here : (stats.inner handle).stat with
  | enabled val =>
    rw [here] at enables
    cases enables
  | markedForDisable val =>
    rw [here] at enables
    cases enables
    cases useOldValue <;> exact ⟨rfl, rfl⟩
  | disabled =>
    rw [here] at enables
    cases enables
    unfold insert
    cases useOldValue <;> split <;> exact ⟨rfl, rfl⟩

/-- What an action forms, and what it does to the average, if the loads before and after it
are within the bound. -/
theorem step_sums {bound : Nat} {action : StatsAction} (indexed : stats.Indexed)
    (windowed : Windowed stats.avgGlobalStat bound) (before : stats.load ≤ bound)
    (behind : after.load ≤ bound) (advanced : stats.step action = .ok after) :
    Windowed after.avgGlobalStat bound ∧ ∀ sum ∈ stats.sums action, sum ≤ 2 ^ 7 * bound := by
  have wide {sum : Nat} (small : sum ≤ bound) : sum ≤ 2 ^ 7 * bound := by omega
  cases action with
  | set handle val =>
    cases advanced
    refine ⟨?_, fun sum member => nomatch member⟩
    rw [set_undisturbed.avgGlobalStat]
    exact windowed
  | increment handle =>
    cases advanced
    refine ⟨?_, fun sum member => wide (Nat.le_trans (increment_sums_le indexed sum member) behind)⟩
    rw [increment_undisturbed.avgGlobalStat]
    exact windowed
  | disable handle =>
    cases advanced
    refine ⟨?_, fun sum member => nomatch member⟩
    rw [disable_undisturbed.avgGlobalStat]
    exact windowed
  | resetStats =>
    cases advanced
    refine ⟨?_, fun sum member => nomatch member⟩
    rw [resetStats_undisturbed.avgGlobalStat]
    exact windowed
  | enable handle useOldValue initialVal =>
    obtain ⟨formed, average⟩ := enable_sums advanced
    rw [formed, average]
    refine ⟨windowed, fun sum member => ?_⟩
    rw [List.mem_singleton.mp member]
    exact wide (Nat.le_trans after.globalStat_le_load behind)
  | poll =>
    have advanced : stats.poll = .ok after := advanced
    unfold poll at advanced
    rw [sums]
    cases loops : pollLoop stats.handles.length 0 stats with
    | error fault =>
      rw [loops] at advanced
      cases advanced
    | ok polled =>
      obtain ⟨average, within⟩ := pollLoop_within indexed loops
      rw [loops] at advanced
      dsimp only at advanced ⊢
      rw [average] at advanced ⊢
      cases updates : stats.avgGlobalStat.update polled.globalStat with
      | error fault =>
        rw [updates] at advanced
        cases advanced
      | ok rolled =>
        rw [updates] at advanced
        cases advanced
        obtain ⟨windowed', formed⟩ := windowed.update (Nat.le_trans within before) updates
        refine ⟨windowed', fun sum member => ?_⟩
        rw [formed, List.mem_append] at member
        obtain loop | last := member
        · exact wide (Nat.le_trans (pollLoopSums_le indexed sum loop) before)
        · rw [List.mem_singleton.mp last]
          exact windowed'.sum_le

/-- The statistics fit their words. In every run in which the total and the values that wait
stay below `2 ^ 57`, no sum that an action forms reaches `2 ^ 64`.

Proof: every sum but the last of a poll is a part of the load before or behind the action,
since what the loop of `poll` still has ahead never grows. The last one is over a window of
`2 ^ 7` totals, each of which was a part of a load. -/
theorem sums_fit {past : List (Transition Stats StatsAction)} (run : Run Stats.step new past stats)
    (small : Throughout (fun stats => stats.load < 2 ^ 57) new past) :
    ∀ transition ∈ past, ∀ sum ∈ transition.source.sums transition.action, sum < 2 ^ 64 := by
  suffices holds : stats.load < 2 ^ 57 ∧ Windowed stats.avgGlobalStat (2 ^ 57 - 1) ∧
      ∀ transition ∈ past, ∀ sum ∈ transition.source.sums transition.action, sum < 2 ^ 64 from
    holds.2.2
  induction run with
  | nil => exact ⟨small.1, .new _, by simp⟩
  | @step past source target action earlier advanced inductionHypothesis =>
    obtain ⟨behind, throughout⟩ := throughout_cons.mp small
    obtain ⟨before, windowed, fits⟩ := inductionHypothesis throughout
    obtain ⟨windowed', formed⟩ := step_sums (indexed_run earlier).1 windowed
      (Nat.le_sub_one_of_lt before) (Nat.le_sub_one_of_lt behind) advanced
    refine ⟨behind, windowed', fun transition member sum summed => ?_⟩
    obtain rfl | member := List.mem_cons.mp member
    · have most := formed sum summed
      omega
    · exact fits transition member sum summed

end Stats

end Capybara
