import Capybara.Lib.Positions
import Capybara.Lib.Runs

/-!
# Load statistics

`stats.rs`. A connection reports a value through its handle; `Stats` keeps the sum of the
values and sorts the handles into buckets of eight values each. A handle is shared between
the connection and the lists, so the lists hold the numbers of the handles and their cells
stand in `inner`; a handle that was never enabled has the cells that `new` gives it.

What is set through a handle waits until the next `poll`, which goes through the handles
by an index and removes those that were disabled by a swap. Values are lengths of queues
and numbers of requests, here natural numbers for the `usize` of the source. `StatsWords`
shows that no sum of them leaves a word as long as the total and the values that wait stay
below `2 ^ 57`.
-/

namespace Capybara

open Runs Positions

/-- The places where the statistics panic. -/
inductive StatsFault where
  /-- `poll`: "disabled stat found in handles vector". -/
  | disabledFound
  /-- `handles[i]` and `handles.swap_remove(i)`. -/
  | noHandle
  /-- `remove`: there is no such bucket. -/
  | noBucket
  /-- `remove`: there is no such entry in the bucket. -/
  | noEntry
  /-- A subtraction that goes below zero. -/
  | underflow
  /-- `enable`: "Enabling already enabled stat". -/
  | alreadyEnabled
  /-- `RollingAverage::update`: the window is empty. -/
  | emptyWindow
  deriving DecidableEq, Repr

/-- `Stat`. -/
inductive Stat where
  | disabled
  | enabled (value : Nat)
  | markedForDisable (value : Nat)
  deriving DecidableEq, Repr

/-- The value of a stat; none is tracked while it is disabled. -/
def Stat.value : Stat → Nat
  | .disabled => 0
  | .enabled value => value
  | .markedForDisable value => value

/-- `StatsHandleInner`, without the connection that it names. -/
structure StatsHandleInner where
  stat : Stat
  statToUpdate : Option Nat
  bucketListPosition : Option (Nat × Nat)
  handlesIndex : Option Nat
  statRightBeforeDisable : Option Nat
  deriving DecidableEq, Repr

/-- `StatsHandle::new`. -/
def StatsHandleInner.new : StatsHandleInner := ⟨.disabled, none, none, none, none⟩

/-- `RollingAverage`. -/
structure RollingAverage where
  values : List Nat
  sum : Nat
  deriving DecidableEq, Repr

namespace RollingAverage

/-- `ROLLING_AVG_WINDOW_LOG2`. -/
def ROLLING_AVG_WINDOW_LOG2 : Nat := 7

/-- `ROLLING_AVG_WINDOW`. -/
def ROLLING_AVG_WINDOW : Nat := 1 <<< ROLLING_AVG_WINDOW_LOG2

/-- `new`. -/
def new : RollingAverage := ⟨List.replicate ROLLING_AVG_WINDOW 0, 0⟩

/-- `update`. -/
def update (average : RollingAverage) (value : Nat) : Except StatsFault RollingAverage :=
  match average.values with
  | [] => .error .emptyWindow
  | oldest :: values =>
    if average.sum < oldest then .error .underflow
    else .ok ⟨values ++ [value], average.sum - oldest + value⟩

end RollingAverage

/-- `Stats`, with the cells of the handles. -/
structure Stats where
  globalStat : Nat
  avgGlobalStat : RollingAverage
  buckets : List (List Nat)
  handles : List Nat
  inner : Nat → StatsHandleInner

namespace Stats

/-- `BUCKET_SIZE_LOG2`. -/
def BUCKET_SIZE_LOG2 : Nat := 3

/-- `new`. -/
def new : Stats := ⟨0, .new, [], [], fun _ => .new⟩

/-! ## The cells -/

/-- Change the cells of a handle. -/
def modifyInner (stats : Stats) (handle : Nat) (change : StatsHandleInner → StatsHandleInner) :
    Stats :=
  { stats with inner := Function.update stats.inner handle (change (stats.inner handle)) }

/-- Write the stat of a handle. -/
def setStat (stats : Stats) (handle : Nat) (stat : Stat) : Stats :=
  stats.modifyInner handle ({ · with stat })

/-- Write the update that waits for the next poll. -/
def setStatToUpdate (stats : Stats) (handle : Nat) (statToUpdate : Option Nat) : Stats :=
  stats.modifyInner handle ({ · with statToUpdate })

/-- Write the position of a handle in the buckets. -/
def setPosition (stats : Stats) (handle : Nat) (bucketListPosition : Option (Nat × Nat)) : Stats :=
  stats.modifyInner handle ({ · with bucketListPosition })

/-- Write the index of a handle in the list of handles. -/
def setHandlesIndex (stats : Stats) (handle : Nat) (handlesIndex : Option Nat) : Stats :=
  stats.modifyInner handle ({ · with handlesIndex })

/-- Write the value that a disabled handle keeps. -/
def setStatRightBeforeDisable (stats : Stats) (handle : Nat) (statRightBeforeDisable : Option Nat) :
    Stats :=
  stats.modifyInner handle ({ · with statRightBeforeDisable })

/-! ## `BucketList` -/

/-- `push_into_bucket`. -/
def pushIntoBucket (stats : Stats) (index handle : Nat) : Stats :=
  { stats.setPosition handle (some (behind stats.buckets index)) with
    buckets := push stats.buckets index handle }

/-- `insert`: zeros are not stored. -/
def insert (stats : Stats) (handle val : Nat) : Stats :=
  if val > 0 then stats.pushIntoBucket (val >>> BUCKET_SIZE_LOG2) handle else stats

/-- `remove`. -/
def remove (stats : Stats) (position : Nat × Nat) : Except StatsFault (Nat × Stats) :=
  match stats.buckets[position.1]? with
  | none => .error .noBucket
  | some bucket =>
    match swapRemove bucket position.2 with
    | none => .error .noEntry
    | some (removed, bucket) =>
      let stats := { stats.setPosition removed none with
        buckets := stats.buckets.set position.1 bucket }
      match bucket[position.2]? with
      | none => .ok (removed, stats)
      | some moved => .ok (removed, stats.setPosition moved (some position))

/-- `update`. -/
def update (stats : Stats) (handle val : Nat) : Except StatsFault Stats :=
  let newIndex := val >>> BUCKET_SIZE_LOG2
  match (stats.inner handle).bucketListPosition with
  | none => .ok (if val > 0 then stats.pushIntoBucket newIndex handle else stats)
  | some (index, subIndex) =>
    if val = 0 ∨ index ≠ newIndex then
      match stats.remove (index, subIndex) with
      | .error fault => .error fault
      | .ok (handle, stats) => .ok (if val > 0 then stats.pushIntoBucket newIndex handle else stats)
    else .ok stats

/-! ## `StatsHandle` -/

/-- `set`. -/
def set (stats : Stats) (handle val : Nat) : Stats :=
  match (stats.inner handle).stat with
  | .enabled _ => stats.setStatToUpdate handle (some val)
  | _ => stats

/-- `increment`. -/
def increment (stats : Stats) (handle : Nat) : Stats :=
  match (stats.inner handle).stat with
  | .enabled val =>
    match (stats.inner handle).statToUpdate with
    | some val => stats.setStatToUpdate handle (some (val + 1))
    | none => stats.setStatToUpdate handle (some (val + 1))
  | _ => stats

/-- `enable`: a handle that was only marked is still in the lists. -/
def enable (stats : Stats) (handle : Nat) (useOldValue : Bool) (initialVal : Nat) :
    Except StatsFault Stats :=
  let oldStat := (stats.inner handle).stat
  let oldVal := (stats.inner handle).statRightBeforeDisable
  let initialVal := if useOldValue then oldVal.getD initialVal else initialVal
  let stats := if useOldValue then stats.setStatRightBeforeDisable handle none else stats
  match oldStat with
  | .enabled _ => .error .alreadyEnabled
  | .markedForDisable _ =>
    let stats := stats.setStat handle (.enabled initialVal)
    .ok { stats with globalStat := stats.globalStat + initialVal }
  | .disabled =>
    let stats := stats.setStat handle (.enabled initialVal)
    let stats := { stats with globalStat := stats.globalStat + initialVal }
    let stats := { stats.setHandlesIndex handle (some stats.handles.length) with
      handles := stats.handles ++ [handle] }
    .ok (stats.insert handle initialVal)

/-- `disable`. -/
def disable (stats : Stats) (handle : Nat) : Stats :=
  match (stats.inner handle).stat with
  | .enabled val =>
    ((stats.setStat handle (.markedForDisable val)).setHandlesIndex handle none
      ).setStatRightBeforeDisable handle (some val)
  | _ => stats

/-! ## `poll` -/

/-- A handle that was disabled is removed from the buckets, if it is in one. -/
def leaveBucket (stats : Stats) (handle : Nat) :
    Option (Nat × Nat) → Except StatsFault Stats
  | none => .ok stats
  | some position =>
    match stats.remove position with
    | .error fault => .error fault
    | .ok (_, stats) => .ok (stats.setPosition handle none)

/-- It is removed from the handles by a swap, and what takes its place learns its index. -/
def leaveHandles (stats : Stats) (i handle : Nat) (handles : List Nat) : Stats :=
  let stats := { stats.setHandlesIndex handle none with handles }
  match handles[i]? with
  | none => stats
  | some moved => stats.setHandlesIndex moved (some i)

/-- A handle that was disabled is removed from both lists. -/
def release (stats : Stats) (i len : Nat) : Except StatsFault Stats :=
  match swapRemove stats.handles i with
  | none => .error .noHandle
  | some (handle, handles) =>
    let position := (stats.inner handle).bucketListPosition
    match (stats.leaveHandles i handle handles).leaveBucket handle position with
    | .error fault => .error fault
    | .ok stats =>
      let stats := stats.setStat handle .disabled
      if stats.globalStat < len then .error .underflow
      else .ok { stats with globalStat := stats.globalStat - len }

/-- A value that was set replaces the old one. -/
def replace (stats : Stats) (handle stat statToUpdate : Nat) : Except StatsFault Stats :=
  if statToUpdate = stat then .ok stats
  else if stats.globalStat + statToUpdate < stat then .error .underflow
  else
    let stats := { stats with globalStat := stats.globalStat + statToUpdate - stat }
    (stats.setStat handle (.enabled statToUpdate)).update handle statToUpdate

/-- One round of the loop of `poll`, with the index of the next one. -/
def pollRound (stats : Stats) (i : Nat) : Except StatsFault (Nat × Stats) :=
  match stats.handles[i]? with
  | none => .error .noHandle
  | some handle =>
    match (stats.inner handle).stat with
    | .markedForDisable len => (stats.release i len).map ((i, ·))
    | .enabled stat =>
      match (stats.inner handle).statToUpdate with
      | none => .ok (i + 1, stats)
      | some statToUpdate =>
        ((stats.setStatToUpdate handle none).replace handle stat statToUpdate).map ((i + 1, ·))
    | .disabled => .error .disabledFound

/-- The loop of `poll` for a number of rounds. -/
def pollLoop : Nat → Nat → Stats → Except StatsFault Stats
  | 0, _, stats => .ok stats
  | rounds + 1, i, stats =>
    if i < stats.handles.length then
      match stats.pollRound i with
      | .error fault => .error fault
      | .ok (i, stats) => pollLoop rounds i stats
    else .ok stats

/-- `poll`: every round leaves fewer handles behind the index, so that there are as many
rounds as handles. -/
def poll (stats : Stats) : Except StatsFault Stats :=
  match pollLoop stats.handles.length 0 stats with
  | .error fault => .error fault
  | .ok stats =>
    match stats.avgGlobalStat.update stats.globalStat with
    | .error fault => .error fault
    | .ok avgGlobalStat => .ok { stats with avgGlobalStat }

/-- `reset_stats`. -/
def resetStats (stats : Stats) : Stats :=
  stats.buckets.flatten.foldl (fun stats handle => stats.setStatToUpdate handle (some 0)) stats

end Stats

/-- What happens to the statistics. -/
inductive StatsAction where
  | set (handle val : Nat)
  | increment (handle : Nat)
  | enable (handle : Nat) (useOldValue : Bool) (initialVal : Nat)
  | disable (handle : Nat)
  | poll
  | resetStats
  deriving DecidableEq, Repr

/-- One action. -/
def Stats.step (stats : Stats) : StatsAction → Except StatsFault Stats
  | .set handle val => .ok (stats.set handle val)
  | .increment handle => .ok (stats.increment handle)
  | .enable handle useOldValue initialVal => stats.enable handle useOldValue initialVal
  | .disable handle => .ok (stats.disable handle)
  | .poll => stats.poll
  | .resetStats => .ok stats.resetStats

end Capybara
