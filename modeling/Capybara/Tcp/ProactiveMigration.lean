import Capybara.Runtime.Machine
import Capybara.Tcp.StatsConsistency
import Mathlib.Algebra.BigOperators.Group.Finset.Basic

/-!
# Connections to be migrated

`connections_to_proactively_migrate` goes through the buckets, those of large values first
upwards from the one that would do alone, then those below it downwards. It takes one
connection after the other until what is left is not above the threshold, the array is full
or the budget is used up.

Right after a poll the handles in the buckets are enabled and their values sum to the total,
so that the connections do not run out before what is left is small enough.
-/

namespace Capybara

open Runs Positions

/-- The places where the selection panics. -/
inductive SelectionFault where
  /-- `expect_enabled`: "bucket list stat not enabled". -/
  | notEnabled
  /-- `ArrayVec::push`: there is no room left. -/
  | capacityExceeded
  /-- `global_stat - removed_stat` goes below zero. -/
  | underflow
  deriving DecidableEq, Repr

/-- `MAX_EXTRACTED_CONNECTIONS`. -/
def MAX_EXTRACTED_CONNECTIONS : Nat := 20

/-- What `Stats` needs to select connections: the threshold, what is left of the budget (an
`i32`) and the connections that the handles name. -/
structure Selector where
  stats : Stats
  threshold : Nat
  maxProactiveMigrations : Option Int
  conn : Nat → SocketAddrV4 × SocketAddrV4

namespace Selector

/-- `expect_enabled`. -/
def expectEnabled : Stat → Except SelectionFault Nat
  | .enabled val => .ok val
  | _ => .error .notEnabled

/-- The order of the two nested loops: the buckets from `base_index` on, then those in front of
it backwards, each of them from its end. -/
def candidates (buckets : List (List Nat)) (baseIndex : Nat) : List Nat :=
  ((buckets.drop baseIndex ++ (buckets.take baseIndex).reverse).map List.reverse).flatten

/-- The body of the loops, which both `break` leave. -/
def select (selector : Selector) :
    List Nat → Nat → List (SocketAddrV4 × SocketAddrV4) → Option Int →
      Except SelectionFault (List (SocketAddrV4 × SocketAddrV4) × Option Int)
  | [], _, conns, budget => .ok (conns, budget)
  | handle :: handles, removedStat, conns, budget => do
    let val ← expectEnabled (selector.stats.inner handle).stat
    let removedStat := removedStat + val
    let conns ← (
      if conns.length < MAX_EXTRACTED_CONNECTIONS then .ok (conns ++ [selector.conn handle])
      else .error .capacityExceeded)
    let left ← (
      if removedStat ≤ selector.stats.globalStat then .ok (selector.stats.globalStat - removedStat)
      else .error .underflow)
    let shouldEnd : Bool := left ≤ selector.threshold ∨ conns.length = MAX_EXTRACTED_CONNECTIONS
    let budget := budget.map (· - 1)
    if budget.any (· ≤ 0) ∨ shouldEnd then .ok (conns, budget)
    else selector.select handles removedStat conns budget

/-- `connections_to_proactively_migrate`, with the budget afterwards. -/
def connectionsToProactivelyMigrate (selector : Selector) :
    Except SelectionFault (Option (List (SocketAddrV4 × SocketAddrV4)) × Option Int) :=
  let stats := selector.stats
  if selector.maxProactiveMigrations.any (· ≤ 0) then .ok (none, selector.maxProactiveMigrations)
  else if stats.globalStat ≤ selector.threshold then .ok (none, selector.maxProactiveMigrations)
  else do
    let baseIndex := min ((stats.globalStat - selector.threshold) >>> Stats.BUCKET_SIZE_LOG2)
      stats.buckets.length
    let (conns, budget) ←
      selector.select (candidates stats.buckets baseIndex) 0 [] selector.maxProactiveMigrations
    .ok (some conns, budget)

/-- No more connections than this: what fits into the array and what is left of the budget. -/
def limit (selector : Selector) : Nat :=
  match selector.maxProactiveMigrations with
  | none => MAX_EXTRACTED_CONNECTIONS
  | some budget => min MAX_EXTRACTED_CONNECTIONS budget.toNat

/-- The values of handles. -/
def removed (selector : Selector) (chosen : List Nat) : Nat := (chosen.map selector.stats.value).sum

variable {selector : Selector}

/-! ## The loop -/

/-- What has been chosen: different handles out of a list, of which the last one was needed. -/
structure Chosen (selector : Selector) (among chosen : List Nat) : Prop where
  once : chosen.Nodup
  members : ∀ handle ∈ chosen, handle ∈ among
  few : chosen.length ≤ selector.limit
  enough : selector.stats.globalStat - selector.removed chosen ≤ selector.threshold ∨
    chosen.length = selector.limit
  needed : ∃ earlier last, chosen = earlier ++ [last] ∧
    selector.threshold < selector.stats.globalStat - selector.removed earlier

/-- One more has been chosen: the loop ends with it or goes on, with as much more taken from
the total and from the budget. -/
theorem select_cons {handle val : Nat} {handles chosen : List Nat}
    (enabled : selector.stats.stat handle = .enabled val) (room : chosen.length < selector.limit)
    (covered : selector.removed chosen + val ≤ selector.stats.globalStat) :
    selector.select (handle :: handles) (selector.removed chosen) (chosen.map selector.conn)
        (selector.maxProactiveMigrations.map (· - (chosen.length : Int))) =
      if selector.stats.globalStat - selector.removed (chosen ++ [handle]) ≤ selector.threshold ∨
          (chosen ++ [handle]).length = selector.limit then
        .ok ((chosen ++ [handle]).map selector.conn,
          selector.maxProactiveMigrations.map (· - ((chosen ++ [handle]).length : Int)))
      else selector.select handles (selector.removed (chosen ++ [handle]))
        ((chosen ++ [handle]).map selector.conn)
        (selector.maxProactiveMigrations.map (· - ((chosen ++ [handle]).length : Int))) := by
  have here : (selector.stats.inner handle).stat = .enabled val := enabled
  have worth : selector.stats.value handle = val := by rw [Stats.value, enabled, Stat.value]
  have fits : chosen.length < MAX_EXTRACTED_CONNECTIONS := by
    unfold limit at room
    split at room <;> omega
  have taken : selector.removed (chosen ++ [handle]) = selector.removed chosen + val := by
    simp [removed, worth]
  have budget : (selector.maxProactiveMigrations.map (· - (chosen.length : Int))).map (· - 1) =
      selector.maxProactiveMigrations.map (· - ((chosen ++ [handle]).length : Int)) := by
    cases selector.maxProactiveMigrations with
    | none => rfl
    | some budget =>
      simp only [Option.map_some, List.length_append, List.length_singleton, Option.some.injEq]
      omega
  have ended : (((selector.maxProactiveMigrations.map
        (· - ((chosen ++ [handle]).length : Int))).any (· ≤ 0) = true ∨
      decide (selector.stats.globalStat - (selector.removed chosen + val) ≤ selector.threshold ∨
        (chosen.map selector.conn ++ [selector.conn handle]).length = MAX_EXTRACTED_CONNECTIONS) =
          true)) ↔
      selector.stats.globalStat - selector.removed (chosen ++ [handle]) ≤ selector.threshold ∨
        (chosen ++ [handle]).length = selector.limit := by
    rw [taken]
    unfold limit at room ⊢
    cases budget : selector.maxProactiveMigrations with
    | none => simp
    | some budget =>
      simp only [budget] at room
      simp
      omega
  simp only [select, here, expectEnabled, bind, Except.bind, List.length_map, if_pos fits,
    if_pos covered, budget, ended]
  rw [List.map_append, List.map_singleton, taken]

/-- Choosing more removes more. -/
theorem removed_append (chosen more : List Nat) :
    selector.removed (chosen ++ more) = selector.removed chosen + selector.removed more := by
  simp [removed]

/-- The loop returns. By induction on what has not been looked at: as long as too much is left,
what has not been looked at is worth something. -/
theorem select_returns {handles chosen : List Nat}
    (enabled : ∀ handle ∈ handles, ∃ val, selector.stats.stat handle = .enabled val)
    (once : (chosen ++ handles).Nodup)
    (sum : selector.removed (chosen ++ handles) = selector.stats.globalStat)
    (room : chosen.length < selector.limit)
    (above : selector.threshold < selector.stats.globalStat - selector.removed chosen) :
    ∃ all, selector.select handles (selector.removed chosen) (chosen.map selector.conn)
        (selector.maxProactiveMigrations.map (· - (chosen.length : Int))) =
          .ok (all.map selector.conn, selector.maxProactiveMigrations.map (· - (all.length : Int))) ∧
      Chosen selector (chosen ++ handles) all := by
  induction handles generalizing chosen with
  | nil =>
    rw [List.append_nil] at sum
    omega
  | cons handle handles inductionHypothesis =>
    obtain ⟨val, here⟩ := enabled handle List.mem_cons_self
    have worth : selector.removed [handle] = val := by
      simp [removed, Stats.value, here, Stat.value]
    have split : selector.removed chosen + (val + selector.removed handles) =
        selector.stats.globalStat := by
      rw [← sum, removed_append, ← List.singleton_append, removed_append, worth]
    rw [select_cons here room (by omega)]
    rw [List.append_cons chosen handle handles] at once sum ⊢
    split
    · rename_i ended
      refine ⟨chosen ++ [handle], rfl, (List.nodup_append.mp once).1, ?_, ?_, ended, chosen, handle,
        rfl, above⟩
      · exact fun other member => List.mem_append_left _ member
      · rw [List.length_append, List.length_singleton]
        exact room
    · rename_i goes
      obtain ⟨left, short⟩ := not_or.mp goes
      refine inductionHypothesis (fun other member => enabled other (List.mem_cons_of_mem _ member))
        once sum ?_ (Nat.lt_of_not_le left)
      rw [List.length_append, List.length_singleton] at short ⊢
      omega

/-! ## The buckets right after a poll -/

/-- The candidates are the handles in the buckets, in another order. -/
theorem candidates_perm (buckets : List (List Nat)) (baseIndex : Nat) :
    (candidates buckets baseIndex).Perm buckets.flatten := by
  have turned (rows : List (List Nat)) : (rows.map List.reverse).flatten.Perm rows.flatten := by
    induction rows with
    | nil => exact .refl _
    | cons row rows inductionHypothesis =>
      exact (List.reverse_perm row).append inductionHypothesis
  have order : (buckets.drop baseIndex ++ (buckets.take baseIndex).reverse).Perm buckets :=
    ((List.reverse_perm _).append_left _).trans
      (List.perm_append_comm.trans (List.Perm.of_eq (List.take_append_drop _ _)))
  exact (turned _).trans order.flatten

/-- Right after a poll all that is left is enabled. -/
structure Fresh (stats : Stats) : Prop where
  indexed : stats.Indexed
  exact : stats.Exact
  enabled : ∀ handle ∈ stats.handles, ∃ val, stats.stat handle = .enabled val

/-- After a poll that ends a settled run the statistics are fresh. -/
theorem fresh_of_polled {source stats : Stats} {earlier : List (Transition Stats StatsAction)}
    (run : Run Stats.step Stats.new (⟨source, .poll, stats⟩ :: earlier) stats)
    (settled : Meets Stats.Settled (⟨source, .poll, stats⟩ :: earlier)) : Fresh stats := by
  obtain ⟨indexed, exact⟩ := Stats.indexed_run run
  refine ⟨indexed, exact settled, ?_⟩
  cases run with
  | step action before advanced =>
    obtain ⟨after, polls, -, polled⟩ := Stats.poll_returns (Stats.indexed_run before).1
    cases polls.symm.trans advanced
    intro handle member
    have tracked := (indexed.tracked handle).mp member
    rw [polled.stat, Stats.polledStat] at tracked ⊢
    split at tracked
    · exact ⟨_, rfl⟩
    · exact absurd rfl tracked

/-- In fresh statistics the handles with a value are those in the buckets. -/
theorem Fresh.bucketed {stats : Stats} (fresh : Fresh stats) (handle : Nat) :
    handle ∈ stats.buckets.flatten ↔ handle ∈ stats.handles ∧ 0 < stats.value handle := by
  have sorted := fresh.exact.sorted handle
  rw [List.mem_flatten]
  constructor
  · rintro ⟨row, among, member⟩
    obtain ⟨index, inside, rfl⟩ := List.getElem_of_mem among
    obtain ⟨column, within, here⟩ := List.getElem_of_mem member
    have found : entry stats.buckets (index, column) = some handle := by
      rw [entry, List.getElem?_eq_getElem inside]
      exact (List.getElem?_eq_getElem within).trans (congrArg some here)
    have placed := (fresh.indexed.positioned handle _).mpr found
    have somewhere : stats.bucket handle ≠ none := by
      rw [Stats.bucket, placed]
      exact Option.some_ne_none _
    refine ⟨fresh.indexed.bucketed handle somewhere, ?_⟩
    by_contra nothing
    rw [Stats.bucketOf, if_neg nothing] at sorted
    exact somewhere sorted
  · rintro ⟨-, positive⟩
    rw [Stats.bucketOf, if_pos positive, Stats.bucket, Option.map_eq_some_iff] at sorted
    obtain ⟨place, here, -⟩ := sorted
    have found := (fresh.indexed.positioned handle place).mp here
    unfold entry at found
    cases row : stats.buckets[place.1]? with
    | none => simp [row] at found
    | some handles =>
      exact ⟨handles, List.mem_of_getElem? row, List.mem_of_getElem? (by simpa [row] using found)⟩

/-- The values in the buckets sum to the total. -/
theorem Fresh.sum {stats : Stats} (fresh : Fresh stats) :
    (stats.buckets.flatten.map stats.value).sum = stats.globalStat := by
  rw [fresh.exact.total, Stats.total, ← List.sum_toFinset _ fresh.indexed.positioned.nodup,
    ← List.sum_toFinset _ fresh.indexed.once]
  refine Finset.sum_subset (fun handle member => ?_) (fun handle member absent => ?_)
  · rw [List.mem_toFinset] at member ⊢
    exact ((fresh.bucketed handle).mp member).1
  · rw [List.mem_toFinset] at member absent
    by_contra worth
    exact absent ((fresh.bucketed handle).mpr ⟨member, Nat.pos_of_ne_zero worth⟩)

/-! ## The selection -/

/-- The budget is used up. -/
def Exhausted (selector : Selector) : Prop :=
  ∃ left, selector.maxProactiveMigrations = some left ∧ left ≤ 0

/-- The budget that the code asks for is exhausted. -/
theorem exhausted_iff : selector.maxProactiveMigrations.any (· ≤ 0) = true ↔ selector.Exhausted := by
  unfold Exhausted
  cases selector.maxProactiveMigrations with
  | none => simp
  | some left => simp

/-- With a budget that is not exhausted at least one connection may be chosen. -/
theorem limit_pos (funded : ¬ selector.Exhausted) : 0 < selector.limit := by
  have large : 0 < MAX_EXTRACTED_CONNECTIONS := by decide
  unfold limit
  cases budget : selector.maxProactiveMigrations with
  | none => exact large
  | some left =>
    have positive : ¬ left ≤ 0 := fun low => funded ⟨left, budget, low⟩
    dsimp only
    omega

/-- As long as there is a budget and the total is above the threshold, something is chosen. -/
theorem Fresh.selects (fresh : Fresh selector.stats) (funded : ¬ selector.Exhausted)
    (high : selector.threshold < selector.stats.globalStat) :
    ∃ chosen, selector.connectionsToProactivelyMigrate =
        .ok (some (chosen.map selector.conn),
          selector.maxProactiveMigrations.map (· - (chosen.length : Int))) ∧
      Chosen selector selector.stats.handles chosen := by
  unfold connectionsToProactivelyMigrate
  dsimp only
  rw [if_neg (mt exhausted_iff.mp funded), if_neg (Nat.not_le_of_lt high)]
  generalize min ((selector.stats.globalStat - selector.threshold) >>> Stats.BUCKET_SIZE_LOG2)
    selector.stats.buckets.length = baseIndex
  have perm := candidates_perm selector.stats.buckets baseIndex
  have tracked : ∀ handle ∈ candidates selector.stats.buckets baseIndex,
      handle ∈ selector.stats.handles := fun handle member =>
    ((fresh.bucketed handle).mp (perm.mem_iff.mp member)).1
  have sum : selector.removed (candidates selector.stats.buckets baseIndex) =
      selector.stats.globalStat := by
    rw [removed, (perm.map _).sum_eq]
    exact fresh.sum
  obtain ⟨chosen, selects, chosen_⟩ := @select_returns selector _ []
    (fun handle member => fresh.enabled handle (tracked handle member))
    (perm.nodup_iff.mpr fresh.indexed.positioned.nodup) sum (limit_pos funded) high
  have whole : selector.maxProactiveMigrations.map (· - (([] : List Nat).length : Int)) =
      selector.maxProactiveMigrations := by
    cases selector.maxProactiveMigrations with
    | none => rfl
    | some left => simp
  rw [whole] at selects
  have members : ∀ handle ∈ chosen, handle ∈ selector.stats.handles := fun handle member =>
    tracked handle (chosen_.members handle member)
  refine ⟨chosen, ?_, { chosen_ with members }⟩
  have selects : selector.select (candidates selector.stats.buckets baseIndex) 0 []
      selector.maxProactiveMigrations = _ := selects
  rw [selects]
  rfl

/-- Proactive selection. Right after a poll, in a run in which no handle was enabled while it
was still marked, the selection returns, whatever the threshold, the budget and the
connections are. There is nothing to select exactly if the total is not above the threshold
or the budget is used up. Otherwise different handles have been chosen, no more than fit or
are allowed and as many as that if what is left is still too much; the last one was needed,
and the budget is less by their number.

Proof: by the two guards of the function. Past them the statistics are fresh, since the
run ends with a poll, and the candidates are the handles in the buckets in another
order. The induction over what has not been looked at says that it is worth something as
long as too much is left, so that the loop ends with what `Chosen` says. -/
theorem selection_correct {source : Stats} {earlier : List (Transition Stats StatsAction)}
    (run : Run Stats.step Stats.new (⟨source, .poll, selector.stats⟩ :: earlier) selector.stats)
    (settled : Meets Stats.Settled (⟨source, .poll, selector.stats⟩ :: earlier)) :
    ∃ result budget, selector.connectionsToProactivelyMigrate = .ok (result, budget) ∧
      (result = none ↔ selector.stats.globalStat ≤ selector.threshold ∨ selector.Exhausted) ∧
      (result = none → budget = selector.maxProactiveMigrations) ∧
      ∀ conns, result = some conns → ∃ chosen : List Nat,
        conns = chosen.map selector.conn ∧ chosen.Nodup ∧
        (∀ handle ∈ chosen, handle ∈ selector.stats.handles) ∧
        chosen.length ≤ selector.limit ∧
        (selector.stats.globalStat - (chosen.map selector.stats.value).sum ≤ selector.threshold ∨
          chosen.length = selector.limit) ∧
        (∃ others last, chosen = others ++ [last] ∧
          selector.threshold < selector.stats.globalStat - (others.map selector.stats.value).sum) ∧
        budget = selector.maxProactiveMigrations.map (· - (chosen.length : Int)) := by
  by_cases exhausted : selector.Exhausted
  · refine ⟨none, selector.maxProactiveMigrations, ?_, iff_of_true rfl (.inr exhausted),
      fun _ => rfl, nofun⟩
    rw [connectionsToProactivelyMigrate, if_pos (exhausted_iff.mpr exhausted)]
  by_cases low : selector.stats.globalStat ≤ selector.threshold
  · refine ⟨none, selector.maxProactiveMigrations, ?_, iff_of_true rfl (.inl low), fun _ => rfl,
      nofun⟩
    rw [connectionsToProactivelyMigrate, if_neg (mt exhausted_iff.mp exhausted), if_pos low]
  obtain ⟨chosen, selects, chosen_⟩ :=
    (fresh_of_polled run settled).selects exhausted (Nat.lt_of_not_le low)
  refine ⟨_, _, selects, iff_of_false nofun (not_or.mpr ⟨low, exhausted⟩), nofun, ?_⟩
  rintro conns ⟨⟩
  exact ⟨chosen, rfl, chosen_.once, chosen_.members, chosen_.few, chosen_.enough, chosen_.needed, rfl⟩

/-- Three handles of which two have to go. -/
theorem selection_of_two :
    ∃ source earlier stats, execute Stats.step ([], Stats.new) [.enable 0 false 5,
        .enable 1 false 20, .enable 2 false 9, .poll] =
          .ok (⟨source, .poll, stats⟩ :: earlier, stats) ∧
      let selector : Selector := ⟨stats, 10, some 3, fun handle => (⟨0#32, 80⟩, ⟨5#32, .ofNat handle⟩)⟩
      ∃ chosen : List Nat, selector.connectionsToProactivelyMigrate =
          .ok (some (chosen.map selector.conn), some (3 - (chosen.length : Int))) ∧
        chosen.Nodup ∧ chosen.length ≤ 3 := by
  have executed : ∃ source earlier stats, execute Stats.step ([], Stats.new) [.enable 0 false 5,
      .enable 1 false 20, .enable 2 false 9, .poll] =
        .ok (⟨source, .poll, stats⟩ :: earlier, stats) ∧
      Meets Stats.Settled (⟨source, .poll, stats⟩ :: earlier) ∧ stats.globalStat = 34 :=
    ⟨_, _, _, rfl, by decide, rfl⟩
  obtain ⟨source, earlier, stats, executed, settled, total⟩ := executed
  refine ⟨source, earlier, stats, executed, ?_⟩
  intro selector
  obtain ⟨result, budget, selects, nothing, -, some_⟩ :=
    @selection_correct selector source earlier (run_of_execute .nil executed) settled
  cases result with
  | none =>
    have low : stats.globalStat ≤ 10 := by
      obtain low | ⟨left, same, low⟩ := nothing.mp rfl
      · exact low
      · have three : some (3 : Int) = some left := same
        cases three
        exact absurd low (by decide)
    omega
  | some conns =>
    obtain ⟨chosen, rfl, once, -, few, -, -, rfl⟩ := some_ conns rfl
    exact ⟨chosen, selects, once, few⟩

end Selector

end Capybara
