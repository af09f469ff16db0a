import Capybara.Tcp.Stats
import Mathlib.Algebra.BigOperators.Group.List.Basic

/-!
# The statistics are consistent

The handles know where they stand in the buckets, the buckets hold handles that are
polled, and every handle that is polled is enabled or marked. This holds whatever is done,
so that no index is out of range and no disabled handle is found.

The sum of the values never exceeds the total. It is the total, and the buckets are those
of the values, as long as no handle is enabled again while it is still marked: its old
value would stay in the total and its old bucket would keep it.
-/

namespace Capybara

open Runs Positions

/-- The rolling average has a window, and its sum is that of the window. -/
structure RollingAverage.Sound (average : RollingAverage) : Prop where
  window : average.values ≠ []
  sum : average.sum = average.values.sum

/-- The window of a new average is full of zeros, and its sum is zero. -/
theorem RollingAverage.Sound.new : RollingAverage.new.Sound where
  window := by
    rw [RollingAverage.new, Ne, List.replicate_eq_nil_iff]
    decide
  sum := by
    simp [RollingAverage.new]

/-- An update drops the oldest value and keeps the length of the window and its sum. It never
takes away more than the sum has, since the oldest value is a part of it. -/
theorem RollingAverage.Sound.update {average : RollingAverage} (sound : average.Sound) (value : Nat) :
    ∃ after, average.update value = .ok after ∧ after.Sound := by
  obtain ⟨window, sum⟩ := sound
  unfold RollingAverage.update
  cases values : average.values with
  | nil => exact absurd values window
  | cons oldest values' =>
    rw [values, List.sum_cons] at sum
    dsimp only
    rw [if_neg (by omega)]
    refine ⟨_, rfl, by simp, ?_⟩
    dsimp only
    rw [List.sum_append, List.sum_singleton]
    omega

namespace Stats

/-- The stats of the handles. -/
def stat (stats : Stats) (handle : Nat) : Stat := (stats.inner handle).stat

/-- What has been set and not yet been polled. -/
def pending (stats : Stats) (handle : Nat) : Option Nat := (stats.inner handle).statToUpdate

/-- Their positions in the buckets. -/
def position (stats : Stats) (handle : Nat) : Option (Nat × Nat) :=
  (stats.inner handle).bucketListPosition

/-- Their buckets. -/
def bucket (stats : Stats) (handle : Nat) : Option Nat := (stats.position handle).map Prod.fst

/-- Their values. -/
def value (stats : Stats) (handle : Nat) : Nat := (stats.stat handle).value

/-- The sum of the values of the handles that are polled. -/
def total (stats : Stats) : Nat := (stats.handles.map stats.value).sum

/-- The bucket of a value. -/
def bucketOf (val : Nat) : Option Nat := if val > 0 then some (val >>> BUCKET_SIZE_LOG2) else none

variable {stats after : Stats} {handle val : Nat}

/-! ## The cells -/

section

variable {change : StatsHandleInner → StatsHandleInner}

/-- A change of the cells that leaves the stat alone leaves all stats alone. -/
theorem stat_modifyInner (kept : ∀ cells, (change cells).stat = cells.stat) :
    (stats.modifyInner handle change).stat = stats.stat := by
  funext other
  simp only [stat, modifyInner, Function.update_apply]
  split
  · rename_i same
    rw [kept, same]
  · rfl

/-- A change of the cells that leaves the position alone leaves all positions alone. -/
theorem position_modifyInner
    (kept : ∀ cells, (change cells).bucketListPosition = cells.bucketListPosition) :
    (stats.modifyInner handle change).position = stats.position := by
  funext other
  simp only [position, modifyInner, Function.update_apply]
  split
  · rename_i same
    rw [kept, same]
  · rfl

/-- A change of the cells that leaves the update alone leaves all updates alone. -/
theorem pending_modifyInner (kept : ∀ cells, (change cells).statToUpdate = cells.statToUpdate) :
    (stats.modifyInner handle change).pending = stats.pending := by
  funext other
  simp only [pending, modifyInner, Function.update_apply]
  split
  · rename_i same
    rw [kept, same]
  · rfl

end

/-- The stat of the handle is the new one, and those of the others stay. -/
theorem stat_setStat (stat : Stat) :
    (stats.setStat handle stat).stat = Function.update stats.stat handle stat := by
  funext other
  simp only [Stats.stat, setStat, modifyInner, Function.update_apply]
  split <;> rfl

/-- Stats do not depend on the positions in the buckets. -/
theorem stat_setPosition (place : Option (Nat × Nat)) :
    (stats.setPosition handle place).stat = stats.stat :=
  stat_modifyInner fun _ => rfl

/-- Stats do not depend on the values kept for handles that are disabled. -/
theorem stat_setStatRightBeforeDisable (val : Option Nat) :
    (stats.setStatRightBeforeDisable handle val).stat = stats.stat :=
  stat_modifyInner fun _ => rfl

/-- Updates that wait do not depend on the values kept for handles that are disabled. -/
theorem pending_setStatRightBeforeDisable (val : Option Nat) :
    (stats.setStatRightBeforeDisable handle val).pending = stats.pending :=
  pending_modifyInner fun _ => rfl

/-- Updates that wait do not depend on the positions in the buckets. -/
theorem pending_setPosition (place : Option (Nat × Nat)) :
    (stats.setPosition handle place).pending = stats.pending :=
  pending_modifyInner fun _ => rfl

/-- Updates that wait do not depend on the stats. -/
theorem pending_setStat (stat : Stat) : (stats.setStat handle stat).pending = stats.pending :=
  pending_modifyInner fun _ => rfl

/-- Updates that wait do not depend on the indices of the handles. -/
theorem pending_setHandlesIndex (handlesIndex : Option Nat) :
    (stats.setHandlesIndex handle handlesIndex).pending = stats.pending :=
  pending_modifyInner fun _ => rfl

/-- The update of the handle is the new one, and those of the others stay. -/
theorem pending_setStatToUpdate (statToUpdate : Option Nat) :
    (stats.setStatToUpdate handle statToUpdate).pending =
      Function.update stats.pending handle statToUpdate := by
  funext other
  simp only [pending, setStatToUpdate, modifyInner, Function.update_apply]
  split <;> rfl

/-- Stats do not depend on the updates that wait. -/
theorem stat_setStatToUpdate (statToUpdate : Option Nat) :
    (stats.setStatToUpdate handle statToUpdate).stat = stats.stat :=
  stat_modifyInner fun _ => rfl

/-- Stats do not depend on the indices of the handles. -/
theorem stat_setHandlesIndex (handlesIndex : Option Nat) :
    (stats.setHandlesIndex handle handlesIndex).stat = stats.stat :=
  stat_modifyInner fun _ => rfl

/-- Positions in the buckets do not depend on the indices of the handles. -/
theorem position_setHandlesIndex (handlesIndex : Option Nat) :
    (stats.setHandlesIndex handle handlesIndex).position = stats.position :=
  position_modifyInner fun _ => rfl

/-- Positions in the buckets do not depend on the stats. -/
theorem position_setStat (stat : Stat) :
    (stats.setStat handle stat).position = stats.position :=
  position_modifyInner fun _ => rfl

/-- The position of the handle is the new one, and those of the others stay. -/
theorem position_setPosition (place : Option (Nat × Nat)) :
    (stats.setPosition handle place).position = Function.update stats.position handle place := by
  funext other
  simp only [position, setPosition, modifyInner, Function.update_apply]
  split <;> rfl

/-! ## The buckets -/

/-- Only the buckets and the positions have changed. -/
structure Rebucketed (stats after : Stats) : Prop where
  globalStat : after.globalStat = stats.globalStat
  avgGlobalStat : after.avgGlobalStat = stats.avgGlobalStat
  handles : after.handles = stats.handles
  stat : after.stat = stats.stat
  pending : after.pending = stats.pending

/-- Nothing has moved. -/
theorem Rebucketed.refl (stats : Stats) : Rebucketed stats stats := ⟨rfl, rfl, rfl, rfl, rfl⟩

/-- A new position and new buckets touch neither the sums, nor the handles, nor their stats. -/
theorem setPosition_rebucketed (place : Option (Nat × Nat)) (buckets : List (List Nat)) :
    Rebucketed stats { stats.setPosition handle place with buckets } :=
  ⟨rfl, rfl, rfl, stat_setPosition _, pending_setPosition _⟩

/-- Two moves one after the other are a move. -/
theorem Rebucketed.trans {later : Stats} (first : Rebucketed stats after)
    (second : Rebucketed after later) : Rebucketed stats later where
  globalStat := second.globalStat.trans first.globalStat
  avgGlobalStat := second.avgGlobalStat.trans first.avgGlobalStat
  handles := second.handles.trans first.handles
  stat := second.stat.trans first.stat
  pending := second.pending.trans first.pending

/-- The positions are exact, a handle is in the bucket that is given and the others are
where they were. -/
structure Sorts (stats : Stats) (handle : Nat) (bucket : Option Nat) (after : Stats) : Prop where
  rebucketed : Rebucketed stats after
  positioned : Positioned after.buckets after.position
  bucket : ∀ other, after.bucket other = if other = handle then bucket else stats.bucket other

/-- What has moved sorts a handle into a bucket if all positions are right and only the row of
this handle is another one. -/
theorem Sorts.of_positions {bucket : Option Nat} {positions : Nat → Option (Nat × Nat)}
    (rebucketed : Rebucketed stats after) (same : after.position = positions)
    (positioned : Positioned after.buckets positions)
    (rows : ∀ other, (positions other).map Prod.fst =
      if other = handle then bucket else stats.bucket other) : Sorts stats handle bucket after := by
  subst same
  exact ⟨rebucketed, positioned, rows⟩

/-- A handle that is in no bucket is put behind the others of a bucket. -/
theorem pushIntoBucket_sorts (positioned : Positioned stats.buckets stats.position)
    (absent : stats.position handle = none) (index : Nat) :
    Sorts stats handle (some index) (stats.pushIntoBucket index handle) := by
  refine .of_positions (setPosition_rebucketed _ _) (position_setPosition _)
    (positioned.push absent) ?_
  intro other
  rw [Function.update_apply, bucket]
  split <;> rfl

/-- A handle is removed from its bucket, where its position says that it is. -/
theorem remove_sorts (positioned : Positioned stats.buckets stats.position) {place : Nat × Nat}
    (here : stats.position handle = some place) :
    ∃ after, stats.remove place = .ok (handle, after) ∧ Sorts stats handle none after := by
  have there := (positioned handle place).mp here
  unfold entry at there
  cases found : stats.buckets[place.1]? with
  | none => simp [found] at there
  | some row =>
    have standing : row[place.2]? = some handle := by simpa [found] using there
    have inside : place.2 < row.length := (List.getElem?_eq_some_iff.mp standing).1
    have insideRows : place.1 < stats.buckets.length := (List.getElem?_eq_some_iff.mp found).1
    obtain ⟨removed, rest, removes⟩ := swapRemove_returns inside
    obtain rfl : removed = handle := by
      have same := (swapRemove_spec removes).1.symm.trans standing
      exact Option.some.inj same
    have moved : entry (stats.buckets.set place.1 rest) place = rest[place.2]? := by
      rw [entry_set rest insideRows, if_pos rfl]
    have kept := positioned.swapRemove found removes
    have rows := positioned.settle_row found removes
    simp only [settle, moved] at kept rows
    unfold remove
    rw [found]
    dsimp only
    rw [removes]
    dsimp only
    cases last : rest[place.2]? with
    | none =>
      simp only [last] at kept rows
      exact ⟨_, rfl, .of_positions (setPosition_rebucketed none _) (position_setPosition none) kept
        rows⟩
    | some other =>
      simp only [last] at kept rows
      refine ⟨_, rfl, .of_positions ?_ ?_ kept rows⟩
      · exact (setPosition_rebucketed none _).trans (setPosition_rebucketed _ _)
      · refine (position_setPosition _).trans ?_
        exact congrArg (Function.update · other (some place)) (position_setPosition none)

/-- A handle that is sorted into no bucket has no position. -/
theorem Sorts.absent (sorts : Sorts stats handle none after) : after.position handle = none := by
  have bucket := sorts.bucket handle
  rw [if_pos rfl, Stats.bucket, Option.map_eq_none_iff] at bucket
  exact bucket

/-- A handle that is disabled leaves its bucket, if it is in one. -/
theorem leaveBucket_sorts (positioned : Positioned stats.buckets stats.position) (handle : Nat) :
    ∃ after, stats.leaveBucket handle (stats.position handle) = .ok after ∧
      Sorts stats handle none after := by
  cases here : stats.position handle with
  | none =>
    refine ⟨stats, rfl, .refl stats, positioned, ?_⟩
    intro other
    split
    · rename_i same
      rw [bucket, same, here]
      rfl
    · rfl
  | some place =>
    obtain ⟨after, removes, sorts⟩ := remove_sorts positioned here
    have again : (after.setPosition handle none).position = after.position := by
      rw [position_setPosition, ← sorts.absent, Function.update_eq_self]
    simp only [leaveBucket, removes]
    exact ⟨_, rfl, .of_positions (sorts.rebucketed.trans (setPosition_rebucketed none _)) again
      sorts.positioned sorts.bucket⟩

/-- A handle that is in no bucket is sorted into that of its value. -/
theorem insert_sorts (positioned : Positioned stats.buckets stats.position)
    (absent : stats.position handle = none) (val : Nat) :
    Sorts stats handle (bucketOf val) (stats.insert handle val) := by
  unfold insert bucketOf
  split
  · exact pushIntoBucket_sorts positioned absent _
  · refine ⟨.refl stats, positioned, ?_⟩
    intro other
    split
    · rename_i same
      rw [bucket, same, absent]
      rfl
    · rfl

/-- Sorting a handle into the buckets changes no update that waits. -/
theorem pending_insert (stats : Stats) (handle val : Nat) :
    (stats.insert handle val).pending = stats.pending := by
  unfold insert
  split
  · exact pending_setPosition _
  · rfl

/-- A handle whose value has changed is sorted into the bucket of the new one. -/
theorem update_sorts (positioned : Positioned stats.buckets stats.position) (handle val : Nat) :
    ∃ after, stats.update handle val = .ok after ∧ Sorts stats handle (bucketOf val) after := by
  unfold update
  cases here : (stats.inner handle).bucketListPosition with
  | none => exact ⟨_, rfl, insert_sorts positioned here val⟩
  | some place =>
    obtain ⟨index, subIndex⟩ := place
    dsimp only
    split
    · obtain ⟨removed, removes, sorts⟩ := remove_sorts positioned here
      rw [removes]
      dsimp only
      have again := insert_sorts sorts.positioned sorts.absent val
      refine ⟨_, rfl, sorts.rebucketed.trans again.rebucketed, again.positioned, ?_⟩
      intro other
      refine (again.bucket other).trans ?_
      split
      · rfl
      · rename_i different
        rw [sorts.bucket, if_neg different]
    · rename_i stays
      obtain ⟨positive, same⟩ := not_or.mp stays
      refine ⟨_, rfl, .refl stats, positioned, ?_⟩
      intro other
      split
      · rename_i self
        rw [bucket, self, position, here, bucketOf, if_pos (Nat.pos_of_ne_zero positive)]
        exact congrArg some (not_not.mp same)
      · rfl

/-! ## The invariants -/

/-- The lists agree with the cells, and the total covers the values. -/
structure Indexed (stats : Stats) : Prop where
  once : stats.handles.Nodup
  positioned : Positioned stats.buckets stats.position
  tracked : ∀ handle, handle ∈ stats.handles ↔ stats.stat handle ≠ .disabled
  bucketed : ∀ handle, stats.bucket handle ≠ none → handle ∈ stats.handles
  enough : stats.total ≤ stats.globalStat
  average : stats.avgGlobalStat.Sound

/-- The total is the sum of the values, and every handle is in the bucket of its value. -/
structure Exact (stats : Stats) : Prop where
  total : stats.globalStat = stats.total
  sorted : ∀ handle, stats.bucket handle = bucketOf (stats.value handle)

/-- Nothing has changed that the invariants speak of, except that a handle may have been
marked. -/
structure Undisturbed (stats after : Stats) : Prop where
  globalStat : after.globalStat = stats.globalStat
  avgGlobalStat : after.avgGlobalStat = stats.avgGlobalStat
  buckets : after.buckets = stats.buckets
  handles : after.handles = stats.handles
  position : after.position = stats.position
  value : after.value = stats.value
  disabled : ∀ handle, after.stat handle = .disabled ↔ stats.stat handle = .disabled

/-- Only the cells that are neither a stat nor a position may differ. -/
theorem Undisturbed.of_stat (globalStat : after.globalStat = stats.globalStat)
    (avgGlobalStat : after.avgGlobalStat = stats.avgGlobalStat)
    (buckets : after.buckets = stats.buckets) (handles : after.handles = stats.handles)
    (position : after.position = stats.position) (stat : after.stat = stats.stat) :
    Undisturbed stats after := by
  refine ⟨globalStat, avgGlobalStat, buckets, handles, position, ?_, ?_⟩
  · funext handle
    rw [Stats.value, Stats.value, stat]
  · intro handle
    rw [stat]

/-- Nothing is disturbed where nothing happens. -/
theorem Undisturbed.refl (stats : Stats) : Undisturbed stats stats :=
  .of_stat rfl rfl rfl rfl rfl rfl

/-- Two changes that disturb nothing disturb nothing together. -/
theorem Undisturbed.trans {later : Stats} (first : Undisturbed stats after)
    (second : Undisturbed after later) : Undisturbed stats later where
  globalStat := second.globalStat.trans first.globalStat
  avgGlobalStat := second.avgGlobalStat.trans first.avgGlobalStat
  buckets := second.buckets.trans first.buckets
  handles := second.handles.trans first.handles
  position := second.position.trans first.position
  value := second.value.trans first.value
  disabled handle := (second.disabled handle).trans (first.disabled handle)

/-- The sum of the values depends on the handles and their stats only. -/
theorem Undisturbed.total (undisturbed : Undisturbed stats after) : after.total = stats.total := by
  rw [Stats.total, undisturbed.handles, undisturbed.value, Stats.total]

/-- The bucket of a handle depends on its position only. -/
theorem Undisturbed.bucket (undisturbed : Undisturbed stats after) (handle : Nat) :
    after.bucket handle = stats.bucket handle := by
  rw [Stats.bucket, undisturbed.position, Stats.bucket]

/-- Handles and buckets stay indexed. -/
theorem Undisturbed.indexed (undisturbed : Undisturbed stats after) (indexed : stats.Indexed) :
    after.Indexed := by
  refine ⟨?_, ?_, ?_, ?_, ?_, ?_⟩
  · rw [undisturbed.handles]
    exact indexed.once
  · rw [undisturbed.buckets, undisturbed.position]
    exact indexed.positioned
  · intro handle
    rw [undisturbed.handles, Ne, undisturbed.disabled]
    exact indexed.tracked handle
  · intro handle placed
    rw [undisturbed.handles]
    rw [undisturbed.bucket] at placed
    exact indexed.bucketed handle placed
  · rw [undisturbed.total, undisturbed.globalStat]
    exact indexed.enough
  · rw [undisturbed.avgGlobalStat]
    exact indexed.average

/-- The statistics stay exact. -/
theorem Undisturbed.exact (undisturbed : Undisturbed stats after) (exact : stats.Exact) :
    after.Exact := by
  constructor
  · rw [undisturbed.total, undisturbed.globalStat]
    exact exact.total
  · intro handle
    rw [undisturbed.bucket, undisturbed.value]
    exact exact.sorted handle

/-- An update that waits disturbs nothing. -/
theorem setStatToUpdate_undisturbed (statToUpdate : Option Nat) :
    Undisturbed stats (stats.setStatToUpdate handle statToUpdate) :=
  .of_stat rfl rfl rfl rfl (position_modifyInner fun _ => rfl) (stat_setStatToUpdate _)

/-- The index that a handle keeps disturbs nothing. -/
theorem setHandlesIndex_undisturbed (handlesIndex : Option Nat) :
    Undisturbed stats (stats.setHandlesIndex handle handlesIndex) :=
  .of_stat rfl rfl rfl rfl (position_setHandlesIndex _) (stat_setHandlesIndex _)

/-- The value that a disabled handle keeps disturbs nothing. -/
theorem setStatRightBeforeDisable_undisturbed (val : Option Nat) :
    Undisturbed stats (stats.setStatRightBeforeDisable handle val) :=
  .of_stat rfl rfl rfl rfl (position_modifyInner fun _ => rfl) (stat_setStatRightBeforeDisable _)

/-! ## Sums -/

/-- A handle that is in the list contributes its new value in place of the old one. -/
theorem sum_update {values : Nat → Nat} {handles : List Nat} (once : handles.Nodup)
    (member : handle ∈ handles) (new : Nat) :
    (handles.map (Function.update values handle new)).sum + values handle =
      (handles.map values).sum + new := by
  have perm : handles.Perm (handle :: handles.erase handle) := List.perm_cons_erase member
  have others : (handles.erase handle).map (Function.update values handle new) =
      (handles.erase handle).map values := by
    refine List.map_congr_left fun other among => ?_
    exact Function.update_of_ne (once.mem_erase_iff.mp among).1 _ _
  rw [(perm.map _).sum_eq, (perm.map values).sum_eq, List.map_cons, List.map_cons, List.sum_cons,
    List.sum_cons, others, Function.update_self]
  omega

/-- One that is not in the list contributes nothing. -/
theorem sum_update_absent {values : Nat → Nat} {handles : List Nat} (absent : handle ∉ handles)
    (new : Nat) : (handles.map (Function.update values handle new)).sum = (handles.map values).sum := by
  refine congrArg List.sum (List.map_congr_left fun other among => ?_)
  have different : other ≠ handle := by
    rintro rfl
    exact absent among
  exact Function.update_of_ne different _ _

/-- If one stat is replaced, one value is. -/
theorem value_of_stat {stat : Stat} (same : after.stat = Function.update stats.stat handle stat) :
    after.value = Function.update stats.value handle stat.value := by
  funext other
  rw [value, same, Function.update_apply, Function.update_apply]
  split <;> rfl

/-- One handle has changed and the rolling average has not, and by how much more the total
has grown than the sum of the values. -/
structure Changes (stats : Stats) (handle : Nat) (stat : Stat) (bucket : Option Nat)
    (surplus : Nat) (after : Stats) : Prop where
  stat : after.stat = Function.update stats.stat handle stat
  bucket : ∀ other, after.bucket other = if other = handle then bucket else stats.bucket other
  average : after.avgGlobalStat = stats.avgGlobalStat
  total : after.globalStat + stats.total = stats.globalStat + after.total + surplus

/-- A change that keeps the total and sorts the handle keeps the statistics exact. -/
theorem Changes.exact {stat : Stat} {bucket : Option Nat}
    (changes : Changes stats handle stat bucket 0 after) (exact : stats.Exact)
    (sorted : bucket = bucketOf stat.value) : after.Exact := by
  constructor
  · have before := exact.total
    have moved := changes.total
    omega
  · intro other
    rw [changes.bucket, value_of_stat changes.stat, Function.update_apply]
    split
    · exact sorted
    · exact exact.sorted other

/-! ## Polling -/

/-- The bucket after a new value has been taken over: that of the value if it is another one. -/
def replacedBucket (old : Nat) (bucket : Option Nat) (new : Nat) : Option Nat :=
  if new = old then bucket else bucketOf new

/-- What `poll` makes of a handle: what was set for it, and nothing of a marked one. -/
def polledStat (stats : Stats) (handle : Nat) : Stat :=
  match stats.stat handle with
  | .enabled val => .enabled ((stats.pending handle).getD val)
  | _ => .disabled

/-- The bucket where `poll` leaves a handle. -/
def polledBucket (stats : Stats) (handle : Nat) : Option Nat :=
  match stats.stat handle with
  | .enabled val => replacedBucket val (stats.bucket handle) ((stats.pending handle).getD val)
  | _ => none

/-- What still waits for a later poll: what was set for an enabled handle has been taken. -/
def polledPending (stats : Stats) (handle : Nat) : Option Nat :=
  match stats.stat handle with
  | .enabled _ => none
  | _ => stats.pending handle

/-- A handle that was sorted stays sorted. -/
theorem Exact.polledBucket (exact : stats.Exact) (handle : Nat) :
    stats.polledBucket handle = bucketOf (stats.polledStat handle).value := by
  have sorted := exact.sorted handle
  unfold Stats.polledBucket polledStat
  cases here : stats.stat handle with
  | disabled => rfl
  | markedForDisable val => rfl
  | enabled val =>
    rw [value, here] at sorted
    dsimp only [replacedBucket, Stat.value] at sorted ⊢
    split
    · rename_i same
      rw [same, sorted]
    · rfl

/-- A new value is taken over. -/
theorem replace_returns {stat : Nat} (indexed : stats.Indexed)
    (enabled : stats.stat handle = .enabled stat) (new : Nat) :
    ∃ after, stats.replace handle stat new = .ok after ∧ after.Indexed ∧
      after.handles = stats.handles ∧ after.pending = stats.pending ∧
      Changes stats handle (.enabled new) (replacedBucket stat (stats.bucket handle) new) 0 after := by
  unfold replace replacedBucket
  split
  · rename_i same
    refine ⟨stats, rfl, indexed, rfl, rfl, ?_, ?_, rfl, by omega⟩
    · rw [same, ← enabled, Function.update_eq_self]
    · intro other
      split
      · rename_i self
        rw [self]
      · rfl
  have member : handle ∈ stats.handles := by
    rw [indexed.tracked, enabled]
    exact fun wrong => nomatch wrong
  have contributes : stats.value handle = stat := by rw [value, enabled, Stat.value]
  have changed := @sum_update handle stats.value stats.handles indexed.once member new
  have enough := indexed.enough
  unfold total at enough
  rw [if_neg (by omega)]
  dsimp only
  obtain ⟨after, updates, sorts⟩ := @update_sorts ({ stats with
    globalStat := stats.globalStat + new - stat }.setStat handle (.enabled new))
    (by rw [position_setStat]; exact indexed.positioned) handle new
  have stat' : after.stat = Function.update stats.stat handle (.enabled new) :=
    sorts.rebucketed.stat.trans (stat_setStat _)
  have value' : after.value = Function.update stats.value handle new := value_of_stat stat'
  have handles' : after.handles = stats.handles := sorts.rebucketed.handles
  have global : after.globalStat = stats.globalStat + new - stat := sorts.rebucketed.globalStat
  have bucket' (other : Nat) : after.bucket other =
      if other = handle then bucketOf new else stats.bucket other := by
    rw [sorts.bucket]
    split
    · rfl
    · rw [bucket, position_setStat]
      rfl
  have total' : after.total + stat = stats.total + new := by
    rw [total, handles', value', ← contributes, changed, total]
  refine ⟨after, updates, ⟨?_, sorts.positioned, ?_, ?_, ?_, ?_⟩, handles',
    sorts.rebucketed.pending.trans (pending_setStat _), stat', bucket',
    sorts.rebucketed.avgGlobalStat, by omega⟩
  · rw [handles']
    exact indexed.once
  · intro other
    rw [handles', stat', Function.update_apply]
    split
    · rename_i same
      exact iff_of_true (same ▸ member) (fun wrong => nomatch wrong)
    · exact indexed.tracked other
  · intro other placed
    rw [handles']
    rw [bucket'] at placed
    split at placed
    · rename_i same
      exact same ▸ member
    · exact indexed.bucketed other placed
  · have enough' := indexed.enough
    omega
  · rw [sorts.rebucketed.avgGlobalStat]
    exact indexed.average

/-- Of a handle that leaves the list of handles nothing but the list itself is disturbed: the
rest is the indices of two handles. -/
theorem leaveHandles_undisturbed (i handle : Nat) (handles : List Nat) :
    Undisturbed { stats with handles } (stats.leaveHandles i handle handles) := by
  have first : Undisturbed { stats with handles }
      ({ stats.setHandlesIndex handle none with handles } : Stats) :=
    @setHandlesIndex_undisturbed { stats with handles } handle none
  unfold leaveHandles
  dsimp only
  split
  · exact first
  · exact first.trans (setHandlesIndex_undisturbed _)

/-- The stats stay when a handle leaves the list of handles. -/
theorem stat_leaveHandles (i handle : Nat) (handles : List Nat) :
    (stats.leaveHandles i handle handles).stat = stats.stat := by
  unfold leaveHandles
  dsimp only
  split
  · exact stat_setHandlesIndex none
  · exact (stat_setHandlesIndex _).trans (stat_setHandlesIndex none)

/-- The updates that wait stay when a handle leaves the list of handles. -/
theorem pending_leaveHandles (i handle : Nat) (handles : List Nat) :
    (stats.leaveHandles i handle handles).pending = stats.pending := by
  unfold leaveHandles
  dsimp only
  split
  · exact pending_setHandlesIndex none
  · exact (pending_setHandlesIndex _).trans (pending_setHandlesIndex none)

/-- What is left of a list without repetition when an element is taken away. -/
theorem mem_behind {elements others : List Nat} (once : elements.Nodup)
    (perm : elements.Perm (handle :: others)) (other : Nat) :
    other ∈ others ↔ other ∈ elements ∧ other ≠ handle := by
  obtain ⟨absent, -⟩ := List.nodup_cons.mp (perm.nodup_iff.mp once)
  rw [perm.mem_iff, List.mem_cons]
  constructor
  · intro behind
    exact ⟨.inr behind, fun same => absent (same ▸ behind)⟩
  · rintro ⟨same | behind, different⟩
    · exact absurd same different
    · exact behind

/-- A handle that was marked is removed. -/
theorem release_returns {i len : Nat} (indexed : stats.Indexed)
    (found : stats.handles[i]? = some handle) (marked : stats.stat handle = .markedForDisable len) :
    ∃ after, stats.release i len = .ok after ∧ after.Indexed ∧
      swapRemove stats.handles i = some (handle, after.handles) ∧ after.pending = stats.pending ∧
      Changes stats handle .disabled none 0 after := by
  have inside : i < stats.handles.length := (List.getElem?_eq_some_iff.mp found).1
  obtain ⟨removed, rest, removes⟩ := swapRemove_returns inside
  obtain ⟨here, length, -⟩ := swapRemove_spec removes
  obtain rfl : removed = handle := Option.some.inj (here.symm.trans found)
  have perm := swapRemove_perm removes
  obtain ⟨absent, once⟩ := List.nodup_cons.mp (perm.nodup_iff.mp indexed.once)
  have others := mem_behind indexed.once perm
  have contributes : stats.value removed = len := by rw [value, marked, Stat.value]
  have split : stats.total = len + (rest.map stats.value).sum := by
    rw [total, (perm.map stats.value).sum_eq, List.map_cons, List.sum_cons, contributes]
  have enough := indexed.enough
  unfold release
  rw [removes]
  dsimp only
  obtain ⟨mid, middle⟩ : ∃ mid, stats.leaveHandles i removed rest = mid := ⟨_, rfl⟩
  have undisturbed : Undisturbed { stats with handles := rest } mid :=
    middle ▸ leaveHandles_undisturbed i removed rest
  rw [middle]
  have position : (stats.inner removed).bucketListPosition = mid.position removed := by
    rw [undisturbed.position]
    rfl
  have positioned : Positioned mid.buckets mid.position := by
    rw [undisturbed.buckets, undisturbed.position]
    exact indexed.positioned
  obtain ⟨left, leaves, sorts⟩ := leaveBucket_sorts positioned removed
  have global : left.globalStat = stats.globalStat :=
    sorts.rebucketed.globalStat.trans undisturbed.globalStat
  rw [position, leaves]
  dsimp only
  rw [if_neg (by rw [setStat, modifyInner, global]; omega)]
  have stat' : (left.setStat removed .disabled).stat =
      Function.update mid.stat removed .disabled := by
    rw [stat_setStat, sorts.rebucketed.stat]
  have value' : (left.setStat removed .disabled).value = Function.update stats.value removed 0 := by
    rw [value_of_stat stat', undisturbed.value]
    rfl
  have stat'' : (left.setStat removed .disabled).stat =
      Function.update stats.stat removed .disabled := by
    rw [stat', ← middle, stat_leaveHandles]
  have pending' : (left.setStat removed .disabled).pending = stats.pending := by
    rw [pending_setStat, sorts.rebucketed.pending, ← middle, pending_leaveHandles]
  have handles' : left.handles = rest := sorts.rebucketed.handles.trans undisturbed.handles
  have bucket' (other : Nat) : (left.setStat removed .disabled).bucket other =
      if other = removed then none else stats.bucket other := by
    rw [bucket, position_setStat]
    refine (sorts.bucket other).trans ?_
    rw [undisturbed.bucket]
    rfl
  have total' : ((left.handles.map (left.setStat removed .disabled).value)).sum =
      (rest.map stats.value).sum := by
    rw [handles', value', sum_update_absent absent]
  refine ⟨_, rfl, ⟨?_, ?_, ?_, ?_, ?_, ?_⟩, ?_, pending', stat'', bucket',
    sorts.rebucketed.avgGlobalStat.trans undisturbed.avgGlobalStat, ?_⟩
  · exact handles' ▸ once
  · exact (position_setStat _).symm ▸ sorts.positioned
  · intro other
    refine (iff_of_eq (congrArg (other ∈ ·) handles')).trans ?_
    rw [others, indexed.tracked]
    refine Iff.trans ?_ (iff_of_eq (congrArg (· ≠ Stat.disabled) (congrFun stat' other))).symm
    rw [Function.update_apply]
    by_cases same : other = removed
    · simp [same]
    · rw [if_neg same]
      exact (and_iff_left same).trans (not_congr (undisturbed.disabled other)).symm
  · intro other placed
    have placed : (left.setStat removed .disabled).bucket other ≠ none := placed
    rw [bucket'] at placed
    split at placed
    · exact absurd rfl placed
    · rename_i different
      exact handles' ▸ (others other).mpr ⟨indexed.bucketed other placed, different⟩
  · refine Nat.le_trans (Nat.le_of_eq total') ?_
    dsimp only [setStat, modifyInner]
    omega
  · exact (sorts.rebucketed.avgGlobalStat.trans undisturbed.avgGlobalStat) ▸ indexed.average
  · exact congrArg (fun handles => some (removed, handles)) handles'.symm
  · refine Eq.trans ?_ (congrArg (stats.globalStat + ·) total'.symm)
    dsimp only [setStat, modifyInner]
    omega

/-- One round: the handle at the index is polled, and those behind it remain. -/
structure PolledRound (stats : Stats) (i next : Nat) (after : Stats) : Prop where
  indexed : after.Indexed
  shorter : after.handles.length - next + 1 = stats.handles.length - i
  round : ∃ handle ∈ stats.handles.drop i,
    Changes stats handle (stats.polledStat handle) (stats.polledBucket handle) 0 after ∧
    after.pending = Function.update stats.pending handle (stats.polledPending handle) ∧
    ∀ other, other ∈ after.handles.drop next ↔ other ∈ stats.handles.drop i ∧ other ≠ handle

/-- The handles from an index on, with the one at the index in front. -/
theorem handles_drop {i : Nat} (found : stats.handles[i]? = some handle) :
    stats.handles.drop i = handle :: stats.handles.drop (i + 1) := by
  obtain ⟨inside, here⟩ := List.getElem?_eq_some_iff.mp found
  rw [List.drop_eq_getElem_cons inside, here]

/-- A round that finds a marked handle removes it, and polls the handle that has taken its place
next. -/
theorem pollRound_marked {i len : Nat} (indexed : stats.Indexed)
    (found : stats.handles[i]? = some handle) (marked : stats.stat handle = .markedForDisable len) :
    ∃ after, stats.pollRound i = .ok (i, after) ∧ PolledRound stats i i after := by
  have inside : i < stats.handles.length := (List.getElem?_eq_some_iff.mp found).1
  have apart := indexed.once.sublist (List.drop_sublist i stats.handles)
  obtain ⟨after, releases, indexed', removes, pending, changes⟩ := release_returns indexed found marked
  have shorter := (swapRemove_spec removes).2.1
  have stat : stats.polledStat handle = .disabled := by rw [polledStat, marked]
  have bucket : stats.polledBucket handle = none := by rw [polledBucket, marked]
  have kept : stats.polledPending handle = stats.pending handle := by rw [polledPending, marked]
  have here : (stats.inner handle).stat = .markedForDisable len := marked
  refine ⟨after, ?_, indexed', by omega, handle, ?_, ?_, ?_, ?_⟩
  · unfold pollRound
    rw [found]
    dsimp only
    rw [here]
    dsimp only
    rw [releases]
    rfl
  · rw [handles_drop found]
    exact List.mem_cons_self
  · rw [stat, bucket]
    exact changes
  · rw [kept, Function.update_eq_self, pending]
  · exact fun other => mem_behind apart (swapRemove_drop_perm removes) other

/-- A round that finds an enabled handle gives it the value that waits for it, if there is one. -/
theorem pollRound_enabled {i val : Nat} (indexed : stats.Indexed)
    (found : stats.handles[i]? = some handle) (enabled : stats.stat handle = .enabled val) :
    ∃ after, stats.pollRound i = .ok (i + 1, after) ∧ PolledRound stats i (i + 1) after := by
  have inside : i < stats.handles.length := (List.getElem?_eq_some_iff.mp found).1
  have split := handles_drop found
  have among : handle ∈ stats.handles.drop i := split ▸ List.mem_cons_self
  have apart := indexed.once.sublist (List.drop_sublist i stats.handles)
  have behind := fun other => mem_behind apart (List.Perm.of_eq split) other
  have stat : stats.polledStat handle = .enabled ((stats.pending handle).getD val) := by
    rw [polledStat, enabled]
  have bucket : stats.polledBucket handle =
      replacedBucket val (stats.bucket handle) ((stats.pending handle).getD val) := by
    rw [polledBucket, enabled]
  have taken' : stats.polledPending handle = none := by rw [polledPending, enabled]
  have here : (stats.inner handle).stat = .enabled val := enabled
  rw [pending] at stat bucket
  unfold pollRound
  rw [found]
  dsimp only
  rw [here]
  dsimp only
  cases waiting : (stats.inner handle).statToUpdate with
  | none =>
    rw [waiting, Option.getD_none] at stat bucket
    rw [replacedBucket, if_pos rfl] at bucket
    have nothing : stats.pending handle = none := waiting
    refine ⟨stats, rfl, indexed, by omega, handle, among, ⟨?_, ?_, rfl, rfl⟩, ?_, behind⟩
    · rw [stat, ← enabled, Function.update_eq_self]
    · intro other
      rw [bucket]
      split
      · rename_i same
        rw [same]
      · rfl
    · rw [taken', ← nothing, Function.update_eq_self]
  | some new =>
    rw [waiting, Option.getD_some] at stat bucket
    have taken : Undisturbed stats (stats.setStatToUpdate handle none) :=
      setStatToUpdate_undisturbed none
    have still : (stats.setStatToUpdate handle none).stat handle = .enabled val := by
      rw [stat_setStatToUpdate]
      exact here
    obtain ⟨after, replaces, indexed', same, pending, changes⟩ :=
      replace_returns (taken.indexed indexed) still new
    have same : after.handles = stats.handles := same
    dsimp only
    rw [replaces]
    refine ⟨after, rfl, indexed', by rw [same]; omega, handle, among, ?_, ?_, ?_⟩
    · rw [stat, bucket]
      refine ⟨?_, fun other => ?_, changes.average.trans taken.avgGlobalStat, ?_⟩
      · rw [changes.stat, stat_setStatToUpdate]
      · rw [changes.bucket, taken.bucket, taken.bucket]
      · have total := changes.total
        rw [taken.total, taken.globalStat] at total
        exact total
    · rw [pending, pending_setStatToUpdate, taken']
    · rw [same]
      exact behind

/-- A round returns. -/
theorem pollRound_returns {i : Nat} (indexed : stats.Indexed) (inside : i < stats.handles.length) :
    ∃ next after, stats.pollRound i = .ok (next, after) ∧ PolledRound stats i next after := by
  obtain ⟨handle, found⟩ : ∃ handle, stats.handles[i]? = some handle :=
    ⟨_, List.getElem?_eq_getElem inside⟩
  cases here : stats.stat handle with
  | disabled => exact absurd here ((indexed.tracked handle).mp (List.mem_of_getElem? found))
  | markedForDisable len => exact ⟨i, pollRound_marked indexed found here⟩
  | enabled val => exact ⟨i + 1, pollRound_enabled indexed found here⟩

/-- What a round has done to one handle and later rounds to those behind it is done to all. -/
theorem polled_behind {β : Type} {before middle after polled polled' : Nat → β}
    {handles rest : List Nat} (among : handle ∈ handles)
    (behind : ∀ other, other ∈ rest ↔ other ∈ handles ∧ other ≠ handle)
    (round : middle handle = polled handle)
    (others : ∀ other, other ≠ handle → middle other = before other ∧ polled' other = polled other)
    (later : ∀ other, after other = if other ∈ rest then polled' other else middle other)
    (other : Nat) : after other = if other ∈ handles then polled other else before other := by
  rw [later]
  by_cases self : other = handle
  · have apart : handle ∉ rest := fun wrong => ((behind handle).mp wrong).2 rfl
    rw [self, if_neg apart, if_pos among, round]
  · obtain ⟨unchanged, alike⟩ := others other self
    simp only [behind, self, ne_eq, not_false_eq_true, and_true, unchanged, alike]

/-- What `poll` does to every handle; the total keeps its distance from the sum of the values. -/
structure Polled (stats after : Stats) : Prop where
  stat : ∀ handle, after.stat handle = stats.polledStat handle
  bucket : ∀ handle, after.bucket handle = stats.polledBucket handle
  pending : ∀ handle, after.pending handle = stats.polledPending handle
  total : after.globalStat + stats.total = stats.globalStat + after.total

/-- Exact statistics stay exact when a poll has moved the sum as it has moved the values. -/
theorem Polled.exact (polled : Polled stats after) (exact : stats.Exact) : after.Exact := by
  constructor
  · have before := exact.total
    have moved := polled.total
    omega
  · intro handle
    rw [polled.bucket, exact.polledBucket, value, polled.stat]

/-- So does the loop, which has come to the end of the handles after as many rounds as
there are handles behind its index: further rounds change nothing. The handles behind the
index are polled, and nothing else changes. -/
theorem pollLoop_returns {rounds i : Nat} (indexed : stats.Indexed)
    (enough : stats.handles.length - i ≤ rounds) :
    ∃ after, (∀ more, pollLoop (rounds + more) i stats = .ok after) ∧ after.Indexed ∧
      (∀ handle, after.stat handle = if handle ∈ stats.handles.drop i then stats.polledStat handle
        else stats.stat handle) ∧
      (∀ handle, after.bucket handle = if handle ∈ stats.handles.drop i then
        stats.polledBucket handle else stats.bucket handle) ∧
      (∀ handle, after.pending handle = if handle ∈ stats.handles.drop i then
        stats.polledPending handle else stats.pending handle) ∧
      after.globalStat + stats.total = stats.globalStat + after.total := by
  have ended {stats : Stats} {i : Nat} (past : ¬ i < stats.handles.length) (handle : Nat) :
      handle ∉ stats.handles.drop i := by
    rw [List.drop_eq_nil_of_le (Nat.le_of_not_lt past)]
    exact List.not_mem_nil
  induction rounds generalizing stats i with
  | zero =>
    have past : ¬ i < stats.handles.length := by omega
    refine ⟨stats, fun more => ?_, indexed, fun handle => (if_neg (ended past handle)).symm,
      fun handle => (if_neg (ended past handle)).symm,
      fun handle => (if_neg (ended past handle)).symm, rfl⟩
    cases more with
    | zero => rfl
    | succ more => rw [Nat.zero_add, pollLoop, if_neg past]
  | succ rounds inductionHypothesis =>
    by_cases inside : i < stats.handles.length
    · obtain ⟨next, middle, advances, indexed', less, handle, among, changes, pending, behind⟩ :=
        pollRound_returns indexed inside
      obtain ⟨after, loops, indexed'', stat, bucket, pending', total⟩ :=
        inductionHypothesis (i := next) indexed' (by omega)
      have same (other : Nat) (different : other ≠ handle) :
          middle.stat other = stats.stat other ∧ middle.bucket other = stats.bucket other ∧
            middle.pending other = stats.pending other := by
        rw [changes.stat, Function.update_of_ne different, changes.bucket, if_neg different, pending,
          Function.update_of_ne different]
        exact ⟨rfl, rfl, rfl⟩
      refine ⟨after, fun more => ?_, indexed'', polled_behind among behind ?_ ?_ stat,
        polled_behind among behind ?_ ?_ bucket, polled_behind among behind ?_ ?_ pending', ?_⟩
      · rw [Nat.succ_add, pollLoop, if_pos inside, advances]
        exact loops more
      · rw [changes.stat, Function.update_self]
      · intro other different
        obtain ⟨stat', -, pending'⟩ := same other different
        exact ⟨stat', by rw [polledStat, polledStat, stat', pending']⟩
      · rw [changes.bucket, if_pos rfl]
      · intro other different
        obtain ⟨stat', bucket', pending'⟩ := same other different
        exact ⟨bucket', by rw [polledBucket, polledBucket, stat', bucket', pending']⟩
      · rw [pending, Function.update_self]
      · intro other different
        obtain ⟨stat', -, pending'⟩ := same other different
        exact ⟨pending', by rw [polledPending, polledPending, stat', pending']⟩
      · have first := changes.total
        omega
    · refine ⟨stats, fun more => ?_, indexed, fun handle => (if_neg (ended inside handle)).symm,
        fun handle => (if_neg (ended inside handle)).symm,
        fun handle => (if_neg (ended inside handle)).symm, rfl⟩
      rw [Nat.succ_add, pollLoop, if_neg inside]

/-- `poll` returns and keeps the invariants. -/
theorem poll_returns (indexed : stats.Indexed) :
    ∃ after, stats.poll = .ok after ∧ after.Indexed ∧ Polled stats after := by
  obtain ⟨polled, loops, indexed', stat, bucket, pending, total⟩ :=
    @pollLoop_returns stats stats.handles.length 0 indexed (Nat.le_refl _)
  obtain ⟨average, updates, sound⟩ := indexed'.average.update polled.globalStat
  have loop : pollLoop stats.handles.length 0 stats = .ok polled := loops 0
  have untracked (handle : Nat) (absent : handle ∉ stats.handles) : stats.stat handle = .disabled := by
    by_contra tracked
    exact absent ((indexed.tracked handle).mpr tracked)
  refine ⟨{ polled with avgGlobalStat := average }, ?_, { indexed' with average := sound }, ?_, ?_,
    ?_, total⟩
  · rw [poll, loop]
    dsimp only
    rw [updates]
  · intro handle
    refine (stat handle).trans ?_
    rw [List.drop_zero]
    split
    · rfl
    · rename_i absent
      rw [polledStat, untracked handle absent]
  · intro handle
    refine (bucket handle).trans ?_
    rw [List.drop_zero]
    split
    · rfl
    · rename_i absent
      rw [polledBucket, untracked handle absent]
      by_contra placed
      exact absent (indexed.bucketed handle placed)
  · intro handle
    refine (pending handle).trans ?_
    rw [List.drop_zero]
    split
    · rfl
    · rename_i absent
      rw [polledPending, untracked handle absent]

/-! ## The other actions -/

/-- A handle that was only marked is enabled again. -/
theorem enable_marked_returns {old : Nat} (indexed : stats.Indexed)
    (marked : stats.stat handle = .markedForDisable old) (initial : Nat) :
    Indexed { stats.setStat handle (.enabled initial) with
      globalStat := stats.globalStat + initial } ∧
    Changes stats handle (.enabled initial) (stats.bucket handle) old
      { stats.setStat handle (.enabled initial) with globalStat := stats.globalStat + initial } := by
  have member : handle ∈ stats.handles := by
    rw [indexed.tracked, marked]
    exact fun wrong => nomatch wrong
  have contributes : stats.value handle = old := by rw [value, marked, Stat.value]
  have changed := @sum_update handle stats.value stats.handles indexed.once member initial
  have value' : (stats.setStat handle (.enabled initial)).value =
      Function.update stats.value handle initial := value_of_stat (stat_setStat _)
  have position' := @position_setStat stats handle (.enabled initial)
  have total' : (stats.handles.map (stats.setStat handle (.enabled initial)).value).sum + old =
      stats.total + initial := by
    rw [value', ← contributes, changed, total]
  have enough := indexed.enough
  refine ⟨⟨indexed.once, position' ▸ indexed.positioned, ?_, ?_, ?_, indexed.average⟩, ?_, ?_,
    rfl, ?_⟩
  · intro other
    refine (indexed.tracked other).trans ?_
    refine Iff.trans ?_ (iff_of_eq (congrArg (· ≠ Stat.disabled)
      (congrFun (@stat_setStat stats handle (.enabled initial)) other))).symm
    rw [Function.update_apply]
    split
    · rename_i same
      rw [same, marked]
      exact iff_of_true (fun wrong => nomatch wrong) (fun wrong => nomatch wrong)
    · rfl
  · intro other placed
    refine indexed.bucketed other fun gone => placed ?_
    exact (congrArg (Option.map Prod.fst) (congrFun position' other)).trans gone
  · refine Nat.le_trans (Nat.le_add_right _ old) (Nat.le_trans (Nat.le_of_eq total') ?_)
    exact Nat.add_le_add_right enough initial
  · exact stat_setStat _
  · intro other
    refine (congrArg (Option.map Prod.fst) (congrFun position' other)).trans ?_
    split
    · rename_i same
      rw [same]
      rfl
    · rfl
  · refine Eq.trans ?_ (congrArg (stats.globalStat + ·) total').symm |>.trans
      (Nat.add_assoc _ _ _).symm
    dsimp only
    omega

/-- A handle that was disabled joins both lists. -/
theorem enable_disabled_returns (indexed : stats.Indexed)
    (disabled : stats.stat handle = .disabled) {joined : Stats} (initial : Nat)
    (stat : joined.stat = Function.update stats.stat handle (.enabled initial))
    (position : joined.position = stats.position) (buckets : joined.buckets = stats.buckets)
    (globalStat : joined.globalStat = stats.globalStat + initial)
    (average : joined.avgGlobalStat = stats.avgGlobalStat)
    (handles : joined.handles = stats.handles ++ [handle]) :
    (joined.insert handle initial).Indexed ∧
      Changes stats handle (.enabled initial) (bucketOf initial) 0 (joined.insert handle initial) := by
  have outside : handle ∉ stats.handles := by
    rw [indexed.tracked, disabled]
    exact not_not.mpr rfl
  have nowhere : joined.position handle = none := by
    rw [position, ← Option.map_eq_none_iff (f := Prod.fst)]
    by_contra placed
    exact outside (indexed.bucketed handle placed)
  have positioned : Positioned joined.buckets joined.position := by
    rw [buckets, position]
    exact indexed.positioned
  have sorts := insert_sorts positioned nowhere initial
  have stat' : (joined.insert handle initial).stat =
      Function.update stats.stat handle (.enabled initial) := sorts.rebucketed.stat.trans stat
  have value' : (joined.insert handle initial).value = Function.update stats.value handle initial :=
    value_of_stat stat'
  have handles' : (joined.insert handle initial).handles = stats.handles ++ [handle] :=
    sorts.rebucketed.handles.trans handles
  have global : (joined.insert handle initial).globalStat = stats.globalStat + initial :=
    sorts.rebucketed.globalStat.trans globalStat
  have bucket' (other : Nat) : (joined.insert handle initial).bucket other =
      if other = handle then bucketOf initial else stats.bucket other := by
    rw [sorts.bucket, bucket, position, bucket]
  have total' : (joined.insert handle initial).total = stats.total + initial := by
    rw [total, handles', value', List.map_append, List.sum_append, sum_update_absent outside,
      List.map_singleton, Function.update_self, List.sum_singleton, total]
  refine ⟨⟨?_, sorts.positioned, ?_, ?_, ?_, ?_⟩, stat', bucket',
    sorts.rebucketed.avgGlobalStat.trans average, by omega⟩
  · rw [handles', List.nodup_append]
    refine ⟨indexed.once, List.nodup_singleton handle, ?_⟩
    intro one among other last
    rw [List.mem_singleton.mp last]
    rintro rfl
    exact outside among
  · intro other
    rw [handles', stat', Function.update_apply, List.mem_append, List.mem_singleton]
    split
    · rename_i same
      exact iff_of_true (.inr same) (fun wrong => nomatch wrong)
    · rename_i different
      rw [or_iff_left different]
      exact indexed.tracked other
  · intro other placed
    rw [handles', List.mem_append, List.mem_singleton]
    rw [bucket'] at placed
    split at placed
    · rename_i same
      exact .inr same
    · exact .inl (indexed.bucketed other placed)
  · have enough := indexed.enough
    omega
  · rw [sorts.rebucketed.avgGlobalStat, average]
    exact indexed.average

/-- The value with which `enable` starts. -/
def initial (stats : Stats) (handle : Nat) (useOldValue : Bool) (initialVal : Nat) : Nat :=
  if useOldValue then (stats.inner handle).statRightBeforeDisable.getD initialVal else initialVal

/-- Enabling a handle that is not enabled. What a marked one was worth stays in the total, and
its bucket keeps it. -/
theorem enable_returns (indexed : stats.Indexed) (useOldValue : Bool) (initialVal : Nat)
    (notEnabled : ∀ val, stats.stat handle ≠ .enabled val) :
    ∃ after, stats.enable handle useOldValue initialVal = .ok after ∧ after.Indexed ∧
      after.pending = stats.pending ∧
      Changes stats handle (.enabled (stats.initial handle useOldValue initialVal))
        (if stats.stat handle = .disabled then bucketOf (stats.initial handle useOldValue initialVal)
          else stats.bucket handle)
        (stats.value handle) after := by
  unfold enable
  dsimp only
  rw [← initial]
  generalize stats.initial handle useOldValue initialVal = initial
  obtain ⟨taken, takes⟩ : ∃ taken, (if useOldValue = true then
    stats.setStatRightBeforeDisable handle none else stats) = taken := ⟨_, rfl⟩
  rw [takes]
  have undisturbed : Undisturbed stats taken := by
    rw [← takes]
    split
    · exact setStatRightBeforeDisable_undisturbed none
    · exact .refl stats
  have same : taken.stat = stats.stat ∧ taken.pending = stats.pending := by
    rw [← takes]
    split
    · exact ⟨stat_setStatRightBeforeDisable none, pending_setStatRightBeforeDisable none⟩
    · exact ⟨rfl, rfl⟩
  have carried {bucket : Option Nat} {surplus : Nat} {after : Stats}
      (changes : Changes taken handle (.enabled initial) bucket surplus after) :
      Changes stats handle (.enabled initial) bucket surplus after := by
    refine ⟨same.1 ▸ changes.stat, fun other => ?_,
      changes.average.trans undisturbed.avgGlobalStat, ?_⟩
    · rw [changes.bucket, undisturbed.bucket]
    · rw [← undisturbed.total, ← undisturbed.globalStat]
      exact changes.total
  have indexed' := undisturbed.indexed indexed
  have current : stats.stat handle = (stats.inner handle).stat := rfl
  cases here : (stats.inner handle).stat with
  | enabled val => exact absurd here (notEnabled val)
  | markedForDisable val =>
    have marked : taken.stat handle = .markedForDisable val := by
      rw [same.1]
      exact here
    obtain ⟨indexed'', changes⟩ := enable_marked_returns indexed' marked initial
    refine ⟨_, rfl, indexed'', (pending_setStat _).trans same.2, ?_⟩
    rw [current, here, if_neg (fun wrong => nomatch wrong), value, current, here,
      ← undisturbed.bucket]
    exact carried changes
  | disabled =>
    have disabled : taken.stat handle = .disabled := by
      rw [same.1]
      exact here
    let counted : Stats := { taken.setStat handle (.enabled initial) with
      globalStat := taken.globalStat + initial }
    let joined : Stats := { counted.setHandlesIndex handle (some counted.handles.length) with
      handles := counted.handles ++ [handle] }
    have stat : joined.stat = Function.update taken.stat handle (.enabled initial) :=
      (@stat_setHandlesIndex counted handle _).trans (stat_setStat _)
    have position : joined.position = taken.position :=
      (@position_setHandlesIndex counted handle _).trans (position_setStat _)
    have pending : joined.pending = stats.pending :=
      ((@pending_setHandlesIndex counted handle _).trans (pending_setStat _)).trans same.2
    obtain ⟨indexed'', changes⟩ :=
      enable_disabled_returns indexed' disabled initial stat position rfl rfl rfl rfl
    refine ⟨joined.insert handle initial, rfl, indexed'', (pending_insert _ _ _).trans pending, ?_⟩
    rw [current, here, if_pos rfl, value, current, here]
    exact carried changes

/-- `set` disturbs nothing until the next poll. -/
theorem set_undisturbed : Undisturbed stats (stats.set handle val) := by
  unfold set
  split
  · exact setStatToUpdate_undisturbed _
  · exact .refl stats

/-- `increment` disturbs nothing until the next poll. -/
theorem increment_undisturbed : Undisturbed stats (stats.increment handle) := by
  unfold increment
  split
  · split
    · exact setStatToUpdate_undisturbed _
    · exact setStatToUpdate_undisturbed _
  · exact .refl stats

/-- `disable` disturbs nothing until the next poll: a marked handle still counts with its value.
-/
theorem disable_undisturbed : Undisturbed stats (stats.disable handle) := by
  unfold disable
  split
  · rename_i val enabled
    have enabled : stats.stat handle = .enabled val := enabled
    have marks : Undisturbed stats (stats.setStat handle (.markedForDisable val)) := by
      refine ⟨rfl, rfl, rfl, rfl, position_setStat _, ?_, ?_⟩
      · rw [value_of_stat (stat_setStat _)]
        have same : stats.value handle = val := by rw [value, enabled, Stat.value]
        rw [Stat.value, ← same, Function.update_eq_self]
      · intro other
        rw [stat_setStat, Function.update_apply]
        split
        · rename_i same
          rw [same, enabled]
          exact iff_of_false (fun wrong => nomatch wrong) (fun wrong => nomatch wrong)
        · rfl
    exact (marks.trans (setHandlesIndex_undisturbed _)).trans
      (setStatRightBeforeDisable_undisturbed _)
  · exact .refl stats

/-- `reset_stats` disturbs nothing until the next poll. -/
theorem resetStats_undisturbed : Undisturbed stats stats.resetStats := by
  unfold resetStats
  generalize stats.buckets.flatten = handles
  induction handles generalizing stats with
  | nil => exact .refl stats
  | cons handle handles inductionHypothesis =>
    exact (setStatToUpdate_undisturbed _).trans inductionHypothesis

/-! ## Runs -/

/-- A handle is not enabled again while it is still marked. -/
def Settled (stats : Stats) : StatsAction → Prop
  | .enable handle _ _ => ∀ val, stats.stat handle ≠ .markedForDisable val
  | _ => True

instance (stats : Stats) : (action : StatsAction) → Decidable (stats.Settled action)
  | .enable handle _ _ =>
    match here : stats.stat handle with
    | .markedForDisable val => isFalse fun settled => settled val here
    | .disabled => isTrue fun _ wrong => nomatch here.symm.trans wrong
    | .enabled _ => isTrue fun _ wrong => nomatch here.symm.trans wrong
  | .set .. | .increment _ | .disable _ | .poll | .resetStats => isTrue trivial

/-- Every action returns, unless it enables an enabled handle. -/
theorem step_returns (indexed : stats.Indexed) (action : StatsAction)
    (allowed : ∀ handle useOldValue initialVal, action = .enable handle useOldValue initialVal →
      ∀ val, stats.stat handle ≠ .enabled val) :
    ∃ after, stats.step action = .ok after ∧ after.Indexed ∧
      (stats.Settled action → stats.Exact → after.Exact) := by
  cases action with
  | set handle val =>
    exact ⟨_, rfl, set_undisturbed.indexed indexed, fun _ => set_undisturbed.exact⟩
  | increment handle =>
    exact ⟨_, rfl, increment_undisturbed.indexed indexed, fun _ => increment_undisturbed.exact⟩
  | disable handle =>
    exact ⟨_, rfl, disable_undisturbed.indexed indexed, fun _ => disable_undisturbed.exact⟩
  | resetStats =>
    exact ⟨_, rfl, resetStats_undisturbed.indexed indexed, fun _ => resetStats_undisturbed.exact⟩
  | enable handle useOldValue initialVal =>
    have notEnabled := allowed handle useOldValue initialVal rfl
    obtain ⟨after, enables, indexed', -, changes⟩ :=
      enable_returns indexed useOldValue initialVal notEnabled
    refine ⟨after, enables, indexed', fun settled exact => ?_⟩
    have disabled : stats.stat handle = .disabled := by
      cases here : stats.stat handle with
      | disabled => rfl
      | enabled val => exact absurd here (notEnabled val)
      | markedForDisable val => exact absurd here (settled val)
    rw [if_pos disabled, value, disabled] at changes
    exact changes.exact exact rfl
  | poll =>
    obtain ⟨after, polls, indexed', polled⟩ := poll_returns indexed
    exact ⟨after, polls, indexed', fun _ => polled.exact⟩

/-- A handle that was enabled with success was not enabled before. -/
theorem not_enabled {useOldValue : Bool} {initialVal : Nat}
    (enables : stats.enable handle useOldValue initialVal = .ok after) (val : Nat) :
    stats.stat handle ≠ .enabled val := by
  intro enabled
  have enabled : (stats.inner handle).stat = .enabled val := enabled
  simp only [enable, enabled] at enables
  cases enables

/-- New statistics have neither handles nor buckets. -/
theorem Indexed.new : Stats.new.Indexed where
  once := List.nodup_nil
  positioned := by
    rintro handle ⟨row, column⟩
    simp [Stats.new, StatsHandleInner.new, position, entry]
  tracked handle := iff_of_false List.not_mem_nil (not_not.mpr rfl)
  bucketed handle placed := absurd rfl placed
  enough := Nat.le_refl _
  average := .new

/-- The sum of no values is zero. -/
theorem Exact.new : Stats.new.Exact := ⟨rfl, fun _ => rfl⟩

/-- The invariants hold in every state of a run, the second one if no handle was enabled
while it was marked. -/
theorem indexed_run {past : List (Transition Stats StatsAction)} (run : Run Stats.step new past stats) :
    stats.Indexed ∧ (Meets Settled past → stats.Exact) := by
  refine run_invariant (fun past stats => stats.Indexed ∧ (Meets Settled past → stats.Exact))
    ⟨.new, fun _ => .new⟩ ?_ run (meets_true past)
  rintro past source action target - - ⟨indexed, exact⟩ advanced
  have allowed (handle : Nat) (useOldValue : Bool) (initialVal : Nat)
      (enables : action = .enable handle useOldValue initialVal) :
      ∀ val, source.stat handle ≠ .enabled val := by
    subst enables
    exact not_enabled advanced
  obtain ⟨after, advanced', indexed', exact'⟩ := step_returns indexed action allowed
  obtain rfl : target = after := Except.ok.inj (advanced.symm.trans advanced')
  refine ⟨indexed', fun settled => ?_⟩
  obtain ⟨here, before⟩ := (meets_cons _ _ _).mp settled
  exact exact' here (exact before)

/-- In every run no handle is twice in a list, every handle stands where its position says,
and nothing panics but the enabling of an enabled handle. If no handle was enabled while
it was marked, the total is the sum of the values and every positive value is in its
bucket.

Proof: `Indexed` is kept by every action and gives the first two parts. In a settled run
the sum and the buckets are exact as well: an action changes the total by what it
changes of the value of one handle, and leaves every other handle in its bucket. -/
theorem stats_consistent {past : List (Transition Stats StatsAction)}
    (run : Run Stats.step new past stats) :
    (stats.handles.Nodup ∧ stats.buckets.flatten.Nodup ∧
      ∀ handle place, (stats.inner handle).bucketListPosition = some place ↔
        entry stats.buckets place = some handle) ∧
    (∀ action, (∀ handle useOldValue initialVal, action = .enable handle useOldValue initialVal →
      ∀ val, (stats.inner handle).stat ≠ .enabled val) → ∃ after, stats.step action = .ok after) ∧
    (Meets Settled past →
      stats.globalStat = (stats.handles.map fun handle => (stats.inner handle).stat.value).sum ∧
      (∀ handle i j, entry stats.buckets (i, j) = some handle →
        0 < (stats.inner handle).stat.value ∧ (stats.inner handle).stat.value >>> 3 = i) ∧
      ∀ handle ∈ stats.handles, 0 < (stats.inner handle).stat.value →
        ∃ place, entry stats.buckets place = some handle) := by
  obtain ⟨indexed, exact⟩ := indexed_run run
  refine ⟨⟨indexed.once, indexed.positioned.nodup, indexed.positioned⟩, ?_, fun settled => ?_⟩
  · intro action allowed
    obtain ⟨after, advanced, -⟩ := step_returns indexed action allowed
    exact ⟨after, advanced⟩
  obtain ⟨total, sorted⟩ := exact settled
  refine ⟨total, ?_, ?_⟩
  · intro handle i j found
    have bucket := sorted handle
    rw [Stats.bucket, (indexed.positioned handle (i, j)).mpr found, bucketOf] at bucket
    split at bucket
    · rename_i positive
      exact ⟨positive, (Option.some.inj bucket).symm⟩
    · cases bucket
  · intro handle _ positive
    have positive : stats.value handle > 0 := positive
    have bucket := sorted handle
    rw [bucketOf, if_pos positive, Stats.bucket, Option.map_eq_some_iff] at bucket
    obtain ⟨place, here, -⟩ := bucket
    exact ⟨place, (indexed.positioned handle place).mp here⟩

/-- Three handles with values, of which one is disabled and one is set to a value of
another bucket. -/
theorem three_handles_polled :
    ∃ past stats, execute Stats.step ([], new) [.enable 0 false 5, .enable 1 false 20,
        .enable 2 false 3, .set 0 9, .disable 1, .poll] = .ok (past, stats) ∧
      stats.buckets.flatten.Nodup ∧ stats.globalStat = 12 ∧
      stats.globalStat = (stats.handles.map fun handle => (stats.inner handle).stat.value).sum := by
  have executed : ∃ past stats, execute Stats.step ([], new) [.enable 0 false 5, .enable 1 false 20,
      .enable 2 false 3, .set 0 9, .disable 1, .poll] = .ok (past, stats) ∧
      Meets Settled past ∧ stats.globalStat = 12 := ⟨_, _, rfl, by decide, rfl⟩
  obtain ⟨past, stats, executed, settled, twelve⟩ := executed
  obtain ⟨⟨-, once, -⟩, -, exact⟩ := stats_consistent (run_of_execute .nil executed)
  exact ⟨past, stats, executed, once, twelve, (exact settled).1⟩

end Stats

end Capybara
