import Capybara.InetStack.Waiting

/-!
# The results that a wait takes

A wait takes the result of each completed operation as it comes to its token. A token
behind it whose slot is vacant ends the wait with an error, and what was taken before is
lost; a token that is repeated counts as vacant once its operation was taken.

So a wait keeps every result exactly if no token that it comes to behind a completed one
is invalid or repeats one. Then an error takes nothing, and a count reports each operation
that was taken, once and with its own index. A wait that returns at the first completed
operation keeps every result for any list of tokens.
-/

namespace Capybara

variable {ρ : Type}

namespace InetStack

/-- The tokens of a list whose operations have completed. -/
def completions (stack : InetStack) (qts : List QToken) : List QToken :=
  qts.filter fun qt => stack.scheduler.hasCompleted qt

/-- A wait can come to every token of a list: each is pending, or completed with a result
that can be taken, and no completed one is repeated. -/
structure Collectable (stack : InetStack) (qts : List QToken) : Prop where
  each : ∀ qt ∈ qts, stack.Idle qt ∨ ∃ reported, stack.Ready qt reported
  once : (stack.completions qts).Nodup

variable {stack : InetStack} {qt : QToken} {qts : List QToken} {reported : QDesc × OperationResult}

/-- No token at all can be collected. -/
theorem Collectable.nil (stack : InetStack) : stack.Collectable [] := ⟨by simp, List.nodup_nil⟩

/-- A pending token has not completed. -/
theorem completions_idle (idle : stack.Idle qt) :
    stack.completions (qt :: qts) = stack.completions qts := by
  unfold completions
  rw [List.filter_cons_of_neg (by simp [idle.incomplete])]

/-- A completed token is the first one of the completed ones. -/
theorem completions_ready (ready : stack.Ready qt reported) :
    stack.completions (qt :: qts) = qt :: stack.completions qts := by
  exact List.filter_cons_of_pos (p := fun qt => stack.scheduler.hasCompleted qt) ready.complete

/-- Taking the result of a token leaves the others completed as they were. -/
theorem completions_without (absent : qt ∉ qts) :
    (stack.without qt).completions qts = stack.completions qts := by
  unfold completions
  refine List.filter_congr fun other member => ?_
  rw [without_hasCompleted (ne_of_mem_of_not_mem member absent)]

/-- A pending token in front is collected by passing it over. -/
theorem collectable_idle (idle : stack.Idle qt) :
    stack.Collectable (qt :: qts) ↔ stack.Collectable qts := by
  constructor
  · rintro ⟨each, once⟩
    rw [completions_idle idle] at once
    exact ⟨fun other member => each other (List.mem_cons_of_mem _ member), once⟩
  · rintro ⟨each, once⟩
    refine ⟨?_, by rw [completions_idle idle]; exact once⟩
    intro other member
    obtain rfl | later := List.mem_cons.mp member
    · exact .inl idle
    · exact each other later

/-- An operation that is taken is not repeated. -/
theorem Collectable.absent (ready : stack.Ready qt reported)
    (collectable : stack.Collectable (qt :: qts)) : qt ∉ qts := by
  have once := collectable.once
  rw [completions_ready ready, List.nodup_cons] at once
  exact fun member => once.1 (List.mem_filter.mpr ⟨member, ready.complete⟩)

/-- Behind a token whose operation is taken, a wait goes on without it. -/
theorem collectable_ready (ready : stack.Ready qt reported) :
    stack.Collectable (qt :: qts) ↔ (stack.without qt).Collectable qts := by
  constructor
  · intro collectable
    have absent := collectable.absent ready
    have once := collectable.once
    rw [completions_ready ready, List.nodup_cons] at once
    refine ⟨?_, by rw [completions_without absent]; exact once.2⟩
    intro other member
    have different : other ≠ qt := ne_of_mem_of_not_mem member absent
    obtain idle | ⟨reported, ready⟩ := collectable.each other (List.mem_cons_of_mem _ member)
    · exact .inl ((Idle.without_iff different).mpr idle)
    · exact .inr ⟨reported, (Ready.without_iff different).mpr ready⟩
  · rintro ⟨each, once⟩
    have vacant : (stack.without qt).scheduler.slab.get qt = none := by
      rw [without_get, if_pos rfl]
    have absent : qt ∉ qts := by
      intro member
      obtain idle | ⟨reported, ready⟩ := each qt member
      · exact idle.occupied vacant
      · exact ready.occupied vacant
    rw [completions_without absent] at once
    refine ⟨?_, ?_⟩
    · intro other member
      obtain rfl | later := List.mem_cons.mp member
      · exact .inr ⟨reported, ready⟩
      have different : other ≠ qt := ne_of_mem_of_not_mem later absent
      obtain idle | ⟨reported, ready⟩ := each other later
      · exact .inl ((Idle.without_iff different).mp idle)
      · exact .inr ⟨reported, (Ready.without_iff different).mp ready⟩
    · rw [completions_ready ready, List.nodup_cons]
      exact ⟨fun member => absent (List.mem_of_mem_filter member), once⟩

end InetStack

/-! ## Coming to one token -/

namespace Waiting

/-- The result of an operation is stored, with the index of its token. -/
def store (pack : Packing ρ) (index : Nat) (qt : QToken) (reported : QDesc × OperationResult)
    (waiting : Waiting ρ) : Waiting ρ where
  stack := waiting.stack.without qt
  qrs := waiting.qrs.set waiting.completed (pack waiting.completed qt reported)
  indices := waiting.indices.set waiting.completed index
  completed := waiting.completed + 1

/-- The slices have room for a number of results. -/
def Room (waiting : Waiting ρ) (count : Nat) : Prop :=
  count ≤ waiting.qrs.length ∧ count ≤ waiting.indices.length

end Waiting

/-- The ways in which a wait gets past a token. -/
inductive Examined (pack : Packing ρ) (index : Nat) (qt : QToken) (waiting : Waiting ρ) :
    Waiting ρ → Prop where
  | pending (idle : waiting.stack.Idle qt) : Examined pack index qt waiting waiting
  | stored {reported : QDesc × OperationResult} (ready : waiting.stack.Ready qt reported)
      (room : waiting.Room (waiting.completed + 1)) :
      Examined pack index qt waiting (waiting.store pack index qt reported)

section

variable {pack : Packing ρ} {index : Nat} {qt : QToken} {qts : List QToken}
  {waiting after : Waiting ρ} {reported : QDesc × OperationResult} {fail : Fail}

/-- A token that is examined without a failure was pending, or its result has been stored. -/
theorem examine_ok (examines : examine pack index qt waiting = .ok (.ok after)) :
    Examined pack index qt waiting after := by
  unfold examine at examines
  split at examines
  · cases examines
  · cases examines
  · rename_i stack probes
    cases InetStack.probe_outcome probes with
    | pending idle =>
      cases examines
      exact .pending idle
  · rename_i reported stack probes
    cases InetStack.probe_outcome probes with
    | completed ready =>
      split at examines
      · rename_i room
        cases examines
        exact .stored ready room
      · cases examines

/-- A token that fails is vacant. -/
theorem examine_fail (examines : examine pack index qt waiting = .ok (.error fail)) :
    waiting.stack.scheduler.slab.get qt = none := by
  unfold examine at examines
  split at examines
  · cases examines
  · rename_i probes
    cases InetStack.probe_outcome probes with
    | invalid vacant => exact vacant
  · cases examines
  · split at examines
    · cases examines
    · cases examines

/-- A vacant token is refused. -/
theorem examine_invalid (vacant : waiting.stack.scheduler.slab.get qt = none) :
    examine pack index qt waiting = .ok (.error invalidQueueToken) := by
  unfold examine
  rw [InetStack.probe_invalid vacant]

/-- A pending token changes nothing. -/
theorem examine_idle (idle : waiting.stack.Idle qt) :
    examine pack index qt waiting = .ok (.ok waiting) := by
  unfold examine
  rw [InetStack.probe_idle idle]

/-- A completed token is taken out, and its result is stored if there is room. -/
theorem examine_ready (ready : waiting.stack.Ready qt reported)
    (room : waiting.Room (waiting.completed + 1)) :
    examine pack index qt waiting = .ok (.ok (waiting.store pack index qt reported)) := by
  unfold examine
  rw [InetStack.probe_ready ready]
  exact if_pos room

end

/-! ## Coming to a list of tokens -/

/-- A token stands for the task that it stood for, and a later wait finds out about it what
this one would have found out. -/
structure InetStack.Remains (before after : InetStack) (qt : QToken) : Prop where
  task : after.scheduler.slab.get qt = before.scheduler.slab.get qt
  idle : after.Idle qt ↔ before.Idle qt
  ready : ∀ reported, after.Ready qt reported ↔ before.Ready qt reported

/-- Nothing has happened to the token. -/
theorem InetStack.Remains.refl (stack : InetStack) (qt : QToken) : stack.Remains stack qt :=
  ⟨rfl, Iff.rfl, fun _ => Iff.rfl⟩

/-- What remains of what remains remains. -/
theorem InetStack.Remains.trans {before between after : InetStack} {qt : QToken}
    (first : before.Remains between qt) (second : between.Remains after qt) :
    before.Remains after qt :=
  ⟨second.task.trans first.task, second.idle.trans first.idle,
    fun reported => (second.ready reported).trans (first.ready reported)⟩

/-- Taking the result of one token leaves the operation of another one. -/
theorem InetStack.remains_without {stack : InetStack} {qt other : QToken}
    (different : other ≠ qt) : stack.Remains (stack.without qt) other :=
  ⟨by rw [without_get, if_neg different], Idle.without_iff different,
    fun _ => Ready.without_iff different⟩

/-- The operations of some tokens were taken, each token with its index in the list. Each
operation was taken once, its result and its index are stored, and the other operations are
as they were. -/
structure Reports (pack : Packing ρ) (before after : Waiting ρ) (index : Nat)
    (qts : List QToken) (picks : List (QToken × Nat)) : Prop where
  own : picks.Sublist (qts.zipIdx index)
  once : (picks.map Prod.fst).Nodup
  count : after.completed = before.completed + picks.length
  lengths : after.qrs.length = before.qrs.length ∧ after.indices.length = before.indices.length
  stored : ∀ position pick, picks[position]? = some pick →
    ∃ reported, before.stack.Ready pick.1 reported ∧
      after.qrs[before.completed + position]? =
        some (pack (before.completed + position) pick.1 reported) ∧
      after.indices[before.completed + position]? = some pick.2
  untouched : ∀ slot, slot < before.completed ∨ after.completed ≤ slot →
    after.qrs[slot]? = before.qrs[slot]? ∧ after.indices[slot]? = before.indices[slot]?
  taken : ∀ qt ∈ picks.map Prod.fst, after.stack.scheduler.slab.get qt = none
  others : ∀ qt, qt ∉ picks.map Prod.fst → before.stack.Remains after.stack qt

section

variable {pack : Packing ρ} {index : Nat} {qt : QToken} {qts : List QToken}
  {waiting after : Waiting ρ} {reported : QDesc × OperationResult} {picks : List (QToken × Nat)}

/-- No tokens, no results. -/
theorem Reports.nil (waiting : Waiting ρ) : Reports pack waiting waiting index qts [] where
  own := List.nil_sublist _
  once := List.nodup_nil
  count := rfl
  lengths := ⟨rfl, rfl⟩
  stored position pick found := by cases found
  untouched slot outside := ⟨rfl, rfl⟩
  taken qt member := by cases member
  others qt absent := .refl _ qt

/-- A pending operation in front. -/
theorem Reports.pending (reports : Reports pack waiting after (index + 1) qts picks) :
    Reports pack waiting after index (qt :: qts) picks := by
  refine { reports with own := ?_ }
  rw [List.zipIdx_cons]
  exact reports.own.cons _

/-- The operations that were taken had completed. -/
theorem Reports.ready (reports : Reports pack waiting after index qts picks)
    (member : qt ∈ picks.map Prod.fst) : ∃ reported, waiting.stack.Ready qt reported := by
  obtain ⟨pick, among, rfl⟩ := List.mem_map.mp member
  obtain ⟨position, found⟩ := List.getElem?_of_mem among
  obtain ⟨reported, ready, -⟩ := reports.stored position pick found
  exact ⟨reported, ready⟩

/-- A completed operation in front. -/
theorem Reports.completed (ready : waiting.stack.Ready qt reported)
    (room : waiting.Room (waiting.completed + 1))
    (reports : Reports pack (waiting.store pack index qt reported) after (index + 1) qts picks) :
    Reports pack waiting after index (qt :: qts) ((qt, index) :: picks) := by
  have vacant : (waiting.stack.without qt).scheduler.slab.get qt = none := by
    rw [InetStack.without_get, if_pos rfl]
  have absent : qt ∉ picks.map Prod.fst := by
    intro member
    obtain ⟨reported, ready⟩ := reports.ready member
    exact ready.occupied vacant
  have count : after.completed = waiting.completed + 1 + picks.length := reports.count
  constructor
  · rw [List.zipIdx_cons]
    exact reports.own.cons_cons _
  · exact List.nodup_cons.mpr ⟨absent, reports.once⟩
  · rw [count, List.length_cons]
    omega
  · simpa [Waiting.store] using reports.lengths
  · intro position pick found
    cases position with
    | zero =>
      cases found
      obtain ⟨qrs, indices⟩ := reports.untouched waiting.completed (.inl (Nat.lt_succ_self _))
      refine ⟨reported, ready, ?_, ?_⟩
      · rw [Nat.add_zero, qrs]
        exact List.getElem?_set_self room.1
      · rw [Nat.add_zero, indices]
        exact List.getElem?_set_self room.2
    | succ position =>
      rw [List.getElem?_cons_succ] at found
      have different : pick.1 ≠ qt :=
        ne_of_mem_of_not_mem (List.mem_map_of_mem (List.mem_of_getElem? found)) absent
      have shifted : (waiting.store pack index qt reported).completed + position =
          waiting.completed + (position + 1) := by
        dsimp only [Waiting.store]
        omega
      obtain ⟨other, ready, stored⟩ := reports.stored position pick found
      rw [shifted] at stored
      exact ⟨other, (InetStack.Ready.without_iff different).mp ready, stored⟩
  · intro slot outside
    have different : waiting.completed ≠ slot := by omega
    obtain ⟨qrs, indices⟩ := reports.untouched slot (by dsimp only [Waiting.store]; omega)
    rw [qrs, indices]
    exact ⟨List.getElem?_set_ne different, List.getElem?_set_ne different⟩
  · intro other member
    obtain rfl | later := List.mem_cons.mp member
    · rw [(reports.others _ absent).task]
      exact vacant
    · exact reports.taken other later
  · intro other outside
    rw [List.map_cons, List.mem_cons, not_or] at outside
    exact (InetStack.remains_without outside.1).trans (reports.others other outside.2)

/-- More tokens behind. -/
theorem Reports.append (reports : Reports pack waiting after index qts picks)
    (later : List QToken) : Reports pack waiting after index (qts ++ later) picks := by
  refine { reports with own := ?_ }
  rw [List.zipIdx_append]
  exact reports.own.trans (List.sublist_append_left _ _)

/-- A wait that gets past every token has come to every token, and reports those whose
operation had completed. -/
theorem searchAll_collects (searched : searchAll pack qts index waiting = .ok (after, none)) :
    waiting.stack.Collectable qts ∧ ∃ picks, Reports pack waiting after index qts picks ∧
      picks.map Prod.fst = waiting.stack.completions qts := by
  induction qts generalizing index waiting with
  | nil =>
    cases searched
    exact ⟨.nil _, [], .nil _, rfl⟩
  | cons qt qts inductionHypothesis =>
    unfold searchAll at searched
    split at searched
    · cases searched
    · cases searched
    rename_i next examines
    obtain ⟨collectable, picks, reports, completions⟩ := inductionHypothesis searched
    cases examine_ok examines with
    | pending idle =>
      refine ⟨(InetStack.collectable_idle idle).mpr collectable, picks, reports.pending, ?_⟩
      rw [InetStack.completions_idle idle, completions]
    | @stored reported ready room =>
      have whole := (InetStack.collectable_ready ready).mpr collectable
      refine ⟨whole, (qt, index) :: picks, reports.completed ready room, ?_⟩
      rw [InetStack.completions_ready ready, List.map_cons, completions]
      exact congrArg _ (InetStack.completions_without (whole.absent ready))

/-- A wait gets past tokens that it can come to while there is room for the results. -/
theorem searchAll_of_collectable (collectable : waiting.stack.Collectable qts)
    (room : waiting.Room (waiting.completed + (waiting.stack.completions qts).length)) :
    ∃ after, searchAll pack qts index waiting = .ok (after, none) := by
  induction qts generalizing index waiting with
  | nil => exact ⟨waiting, rfl⟩
  | cons qt qts inductionHypothesis =>
    unfold searchAll
    obtain idle | ⟨reported, ready⟩ := collectable.each qt List.mem_cons_self
    · rw [examine_idle idle]
      rw [InetStack.completions_idle idle] at room
      exact inductionHypothesis ((InetStack.collectable_idle idle).mp collectable) room
    · rw [InetStack.completions_ready ready, List.length_cons] at room
      obtain ⟨qrs, indices⟩ := room
      rw [examine_ready ready ⟨by omega, by omega⟩]
      refine inductionHypothesis ((InetStack.collectable_ready ready).mp collectable) ?_
      have same : (waiting.store pack index qt reported).stack.completions qts =
          waiting.stack.completions qts :=
        InetStack.completions_without (collectable.absent ready)
      rw [same]
      constructor
      · rw [Waiting.store, List.length_set]
        dsimp only
        omega
      · rw [Waiting.store, List.length_set]
        dsimp only
        omega

/-- Where nothing was stored, nothing has changed. -/
theorem searchAll_unchanged (searched : searchAll pack qts index waiting = .ok (after, none))
    (none : after.completed = waiting.completed) : after = waiting := by
  induction qts generalizing index waiting with
  | nil =>
    cases searched
    rfl
  | cons qt qts inductionHypothesis =>
    unfold searchAll at searched
    split at searched
    · cases searched
    · cases searched
    rename_i next examines
    cases examine_ok examines with
    | pending idle => exact inductionHypothesis searched none
    | @stored reported ready room =>
      obtain ⟨-, picks, reports, -⟩ := searchAll_collects searched
      have count := reports.count
      dsimp only [Waiting.store] at count
      omega

/-- Where `qrs` is full, nothing more is stored. -/
theorem searchAll_full (searched : searchAll pack qts index waiting = .ok (after, none))
    (full : waiting.completed = waiting.qrs.length) : after = waiting := by
  obtain ⟨-, picks, reports, -⟩ := searchAll_collects searched
  refine searchAll_unchanged searched ?_
  cases picks with
  | nil => exact reports.count
  | cons pick picks =>
    obtain ⟨reported, -, stored, -⟩ := reports.stored 0 pick rfl
    obtain ⟨inside, -⟩ := List.getElem?_eq_some_iff.mp stored
    rw [reports.lengths.1] at inside
    omega

/-! ## Where a wait breaks off -/

/-- The loop that looks at every token fails at the first one whose slot is vacant. -/
theorem searchAll_fails_iff {fail : Fail} :
    searchAll pack qts index waiting = .ok (after, some fail) ↔
      fail = invalidQueueToken ∧ ∃ earlier qt later, qts = earlier ++ qt :: later ∧
        searchAll pack earlier index waiting = .ok (after, none) ∧
        after.stack.scheduler.slab.get qt = none := by
  induction qts generalizing index waiting with
  | nil =>
    constructor
    · intro searched
      cases searched
    · rintro ⟨-, earlier, qt, later, split, -⟩
      simp at split
  | cons first qts inductionHypothesis =>
    constructor
    · intro searched
      unfold searchAll at searched
      split at searched
      · cases searched
      · rename_i examines
        cases searched
        have vacant := examine_fail examines
        rw [examine_invalid vacant] at examines
        cases examines
        exact ⟨rfl, [], first, qts, rfl, rfl, vacant⟩
      · rename_i next examines
        obtain ⟨same, earlier, qt, later, split, before, vacant⟩ := inductionHypothesis.mp searched
        refine ⟨same, first :: earlier, qt, later, by rw [split]; rfl, ?_, vacant⟩
        rw [searchAll, examines]
        exact before
    · rintro ⟨rfl, earlier, qt, later, split, before, vacant⟩
      unfold searchAll
      cases earlier with
      | nil =>
        cases split
        cases before
        rw [examine_invalid vacant]
      | cons head earlier =>
        obtain ⟨rfl, rest⟩ := List.cons.inj split
        unfold searchAll at before
        split at before
        · cases before
        · cases before
        · exact inductionHypothesis.mpr ⟨rfl, earlier, qt, later, rest, before, vacant⟩

/-- The search that stops where `qrs` is full fails at the first vacant slot, unless it has
stopped before it. -/
theorem search_fails_iff {fail : Fail} :
    search pack qts index waiting = .ok (after, some fail) ↔
      fail = invalidQueueToken ∧ ∃ earlier qt later, qts = earlier ++ qt :: later ∧
        searchAll pack earlier index waiting = .ok (after, none) ∧
        after.stack.scheduler.slab.get qt = none ∧ after.completed ≠ after.qrs.length := by
  induction qts generalizing index waiting with
  | nil =>
    constructor
    · intro searched
      cases searched
    · rintro ⟨-, earlier, qt, later, split, -⟩
      simp at split
  | cons first qts inductionHypothesis =>
    constructor
    · intro searched
      unfold search at searched
      split at searched
      · cases searched
      rename_i space
      split at searched
      · cases searched
      · rename_i examines
        cases searched
        have vacant := examine_fail examines
        rw [examine_invalid vacant] at examines
        cases examines
        exact ⟨rfl, [], first, qts, rfl, rfl, vacant, space⟩
      · rename_i next examines
        obtain ⟨same, earlier, qt, later, split, before, vacant, space⟩ :=
          inductionHypothesis.mp searched
        refine ⟨same, first :: earlier, qt, later, by rw [split]; rfl, ?_, vacant, space⟩
        rw [searchAll, examines]
        exact before
    · rintro ⟨rfl, earlier, qt, later, split, before, vacant, space⟩
      have some : waiting.completed ≠ waiting.qrs.length := by
        intro full
        rw [searchAll_full before full] at space
        exact space full
      unfold search
      rw [if_neg some]
      cases earlier with
      | nil =>
        cases split
        cases before
        rw [examine_invalid vacant]
      | cons head earlier =>
        obtain ⟨rfl, rest⟩ := List.cons.inj split
        unfold searchAll at before
        split at before
        · cases before
        · cases before
        · exact inductionHypothesis.mpr ⟨rfl, earlier, qt, later, rest, before, vacant, space⟩

/-- A search that does not fail has got past the tokens up to some point. -/
theorem search_succeeds (searched : search pack qts index waiting = .ok (after, none)) :
    ∃ earlier later, qts = earlier ++ later ∧
      searchAll pack earlier index waiting = .ok (after, none) := by
  induction qts generalizing index waiting with
  | nil =>
    cases searched
    exact ⟨[], [], rfl, rfl⟩
  | cons qt qts inductionHypothesis =>
    unfold search at searched
    split at searched
    · cases searched
      exact ⟨[], qt :: qts, rfl, rfl⟩
    split at searched
    · cases searched
    · cases searched
    · rename_i next examines
      obtain ⟨earlier, later, split, before⟩ := inductionHypothesis searched
      refine ⟨qt :: earlier, later, by rw [split]; rfl, ?_⟩
      rw [searchAll, examines]
      exact before

/-- The slots that are vacant behind some tokens: those that were vacant before, and those
of the operations that were taken. -/
theorem vacant_iff (searched : searchAll pack qts index waiting = .ok (after, none))
    (qt : QToken) : after.stack.scheduler.slab.get qt = none ↔
      waiting.stack.scheduler.slab.get qt = none ∨ qt ∈ waiting.stack.completions qts := by
  obtain ⟨-, picks, reports, completions⟩ := searchAll_collects searched
  rw [← completions]
  by_cases picked : qt ∈ picks.map Prod.fst
  · exact iff_of_true (reports.taken qt picked) (.inr picked)
  · rw [(reports.others qt picked).task, or_iff_left picked]

/-- Some operation was taken exactly if one had completed. -/
theorem kept_iff (searched : searchAll pack qts index waiting = .ok (after, none)) :
    (∀ qt, waiting.stack.scheduler.hasCompleted qt = true →
      after.stack.scheduler.slab.get qt = waiting.stack.scheduler.slab.get qt) ↔
    waiting.stack.completions qts = [] := by
  obtain ⟨-, picks, reports, completions⟩ := searchAll_collects searched
  rw [← completions]
  constructor
  · intro kept
    refine List.eq_nil_iff_forall_not_mem.mpr fun qt picked => ?_
    obtain ⟨reported, ready⟩ := reports.ready picked
    refine ready.occupied ?_
    rw [← kept qt ready.complete]
    exact reports.taken qt picked
  · intro none qt complete
    refine (reports.others qt ?_).task
    rw [none]
    exact List.not_mem_nil

/-- The results of a search fit into the slices. -/
theorem searchAll_room (searched : searchAll pack qts index waiting = .ok (after, none))
    (room : waiting.Room waiting.completed) : waiting.Room after.completed := by
  induction qts generalizing index waiting with
  | nil =>
    cases searched
    exact room
  | cons qt qts inductionHypothesis =>
    unfold searchAll at searched
    split at searched
    · cases searched
    · cases searched
    rename_i next examines
    cases examine_ok examines with
    | pending idle => exact inductionHypothesis searched room
    | @stored reported ready room =>
      simpa [Waiting.Room, Waiting.store] using
        inductionHypothesis searched (by simpa [Waiting.Room, Waiting.store] using room)

end

/-! ## Keeping every result -/

/-- A wait that looks for completed operations keeps every result: an error leaves every
completed operation in the scheduler, and a count is the number of the operations that were
taken and are reported. -/
def Keeps (pack : Packing ρ) (qts : List QToken) (before after : Waiting ρ) :
    Except Fail Nat → Prop
  | .error _ => ∀ qt, before.stack.scheduler.hasCompleted qt = true →
      after.stack.scheduler.slab.get qt = before.stack.scheduler.slab.get qt
  | .ok count => ∃ picks, picks.length = count ∧ Reports pack before after 0 qts picks

/-- Behind a completed operation, a wait comes to a token that is invalid or that repeats a
completed one. What it has to come to before is told by the number of the results in between. -/
def InetStack.BreaksOff (stack : InetStack) (qts : List QToken) (reaches : Nat → Prop) : Prop :=
  ∃ earlier qt later, qts = earlier ++ qt :: later ∧ stack.Collectable earlier ∧
    stack.completions earlier ≠ [] ∧ reaches (stack.completions earlier).length ∧
    (stack.scheduler.slab.get qt = none ∨ qt ∈ stack.completions earlier)

section

variable {pack : Packing ρ} {qts : List QToken} {waiting after : Waiting ρ}

/-- The number of results that a search leaves behind. -/
theorem searchAll_completed (searched : searchAll pack qts 0 waiting = .ok (after, none))
    (start : waiting.completed = 0) :
    after.completed = (waiting.stack.completions qts).length := by
  obtain ⟨-, picks, reports, completions⟩ := searchAll_collects searched
  rw [← completions, List.length_map, reports.count, start, Nat.zero_add]

/-- A loop that fails at a vacant slot keeps every result exactly if none has completed
before such a slot that it reaches. -/
theorem failures_keep_iff {outcome : Except WaitFault (Waiting ρ × Option Fail)}
    {reaches : Nat → Prop} (start : waiting.completed = 0)
    (fails : ∀ after fail, outcome = .ok (after, some fail) ↔
      fail = invalidQueueToken ∧ ∃ earlier qt later, qts = earlier ++ qt :: later ∧
        searchAll pack earlier 0 waiting = .ok (after, none) ∧
        after.stack.scheduler.slab.get qt = none ∧ reaches after.completed) :
    (∀ after fail, outcome = .ok (after, some fail) →
      Keeps pack qts waiting after (.error fail)) ↔
    ¬ waiting.stack.BreaksOff qts fun count => waiting.Room count ∧ reaches count := by
  constructor
  · rintro keeps ⟨earlier, qt, later, split, collectable, some, ⟨room, reaches⟩, vacant⟩
    rw [← Nat.zero_add (waiting.stack.completions earlier).length, ← start] at room
    obtain ⟨after, searched⟩ : ∃ after, searchAll pack earlier 0 waiting = .ok (after, none) :=
      searchAll_of_collectable collectable room
    rw [← searchAll_completed searched start] at reaches
    refine some ((kept_iff searched).mp (keeps after invalidQueueToken ?_))
    exact (fails _ _).mpr ⟨rfl, earlier, qt, later, split, searched,
      (vacant_iff searched qt).mpr vacant, reaches⟩
  · intro whole after fail failed
    obtain ⟨-, earlier, qt, later, split, searched, vacant, reaches⟩ := (fails _ _).mp failed
    refine (kept_iff searched).mpr ?_
    by_contra some
    have room : waiting.Room after.completed := searchAll_room searched (by
      rw [start]
      exact ⟨Nat.zero_le _, Nat.zero_le _⟩)
    rw [searchAll_completed searched start] at room reaches
    exact whole ⟨earlier, qt, later, split, (searchAll_collects searched).1, some, ⟨room, reaches⟩,
      (vacant_iff searched qt).mp vacant⟩

/-- What was taken on the way is reported. -/
theorem reports_of_searchAll {later : List QToken}
    (searched : searchAll pack qts 0 waiting = .ok (after, none)) (start : waiting.completed = 0) :
    Keeps pack (qts ++ later) waiting after (.ok after.completed) := by
  obtain ⟨-, picks, reports, -⟩ := searchAll_collects searched
  refine ⟨picks, ?_, reports.append later⟩
  rw [reports.count, start, Nat.zero_add]

/-- The search of `wait_any2` and `wait_any` keeps every result exactly if it does not
break off before `qrs` is full. -/
theorem search_keeps_iff (start : waiting.completed = 0) :
    (∀ after fail, search pack qts 0 waiting = .ok (after, some fail) →
      Keeps pack qts waiting after (.error fail)) ↔
    ¬ waiting.stack.BreaksOff qts fun count =>
      count < waiting.qrs.length ∧ count ≤ waiting.indices.length := by
  have reached : (fun count => waiting.Room count ∧ count ≠ waiting.qrs.length) =
      fun count => count < waiting.qrs.length ∧ count ≤ waiting.indices.length := by
    funext count
    unfold Waiting.Room
    refine propext ⟨fun ⟨⟨qrs, indices⟩, space⟩ => ⟨by omega, indices⟩,
      fun ⟨qrs, indices⟩ => ⟨⟨by omega, indices⟩, by omega⟩⟩
  rw [← reached]
  refine failures_keep_iff start fun after fail => search_fails_iff.trans ?_
  refine and_congr_right' (exists_congr fun earlier => exists_congr fun qt =>
    exists_congr fun later => and_congr_right' ?_)
  refine and_congr_right fun searched => ?_
  obtain ⟨-, picks, reports, -⟩ := searchAll_collects searched
  rw [reports.lengths.1]

/-- The search of `wait_any_nonblocking2` keeps every result exactly if it does not break
off. -/
theorem searchAll_keeps_iff (start : waiting.completed = 0) :
    (∀ after fail, searchAll pack qts 0 waiting = .ok (after, some fail) →
      Keeps pack qts waiting after (.error fail)) ↔
    ¬ waiting.stack.BreaksOff qts fun count =>
      count ≤ waiting.qrs.length ∧ count ≤ waiting.indices.length := by
  have core : (∀ after fail, searchAll pack qts 0 waiting = .ok (after, some fail) →
      Keeps pack qts waiting after (.error fail)) ↔
      ¬ waiting.stack.BreaksOff qts fun count => waiting.Room count ∧ True := by
    refine failures_keep_iff start fun after fail => searchAll_fails_iff.trans ?_
    simp only [and_true]
  simpa only [and_true, Waiting.Room] using core

/-! ## The calls -/

variable {earlier : List WaitRound} {round : WaitRound} {between : Waiting ρ}
  {polled : InetStack} {verdict : Except Fail Nat}

/-- What `poll_bg_work` does in some rounds. -/
def pollAll : List WaitRound → InetStack → Option InetStack
  | [], stack => some stack
  | round :: rounds, stack =>
    match round.pollBgWork stack with
    | none => none
    | some stack => pollAll rounds stack

/-- One more round polls once more. -/
theorem pollAll_append {stack between : InetStack} (polls : pollAll earlier stack = some between) :
    pollAll (earlier ++ [round]) stack = round.pollBgWork between := by
  induction earlier generalizing stack with
  | nil =>
    cases polls
    rw [List.nil_append, pollAll]
    cases round.pollBgWork between <;> rfl
  | cons first earlier inductionHypothesis =>
    unfold pollAll at polls
    rw [List.cons_append, pollAll]
    split at polls
    · cases polls
    · exact inductionHypothesis polls

/-- A turn of the loop that does not return has only polled. -/
theorem iteration_waits (waits : iteration pack qts round waiting = .ok (after, none)) :
    ∃ polled, round.pollBgWork waiting.stack = some polled ∧
      after = { waiting with stack := polled, completed := 0 } := by
  unfold iteration at waits
  split at waits
  · cases waits
  rename_i polled polls
  split at waits
  · cases waits
  · cases waits
  rename_i found searched
  refine ⟨polled, polls, ?_⟩
  split at waits
  · cases waits
  rename_i empty
  split at waits
  · cases waits
  cases waits
  obtain ⟨earlier, later, -, before⟩ := search_succeeds searched
  exact searchAll_unchanged before (Nat.eq_zero_of_not_pos empty)

/-- A turn of the loop that returns has searched behind its call to `poll_bg_work`. -/
theorem iteration_returns (polls : round.pollBgWork waiting.stack = some polled)
    (returns : iteration pack qts round waiting = .ok (after, some verdict)) :
    (∃ fail, verdict = .error fail ∧
      search pack qts 0 { waiting with stack := polled, completed := 0 } =
        .ok (after, some fail)) ∨
    verdict = .ok after.completed ∧
      search pack qts 0 { waiting with stack := polled, completed := 0 } = .ok (after, none) := by
  unfold iteration at returns
  rw [polls] at returns
  dsimp only at returns
  split at returns
  · cases returns
  · rename_i found fail searched
    cases returns
    exact .inl ⟨fail, rfl, searched⟩
  · rename_i found searched
    right
    split at returns
    · cases returns
      exact ⟨rfl, searched⟩
    rename_i empty
    split at returns
    · cases returns
      rw [Nat.eq_zero_of_not_pos empty]
      exact ⟨rfl, searched⟩
    · cases returns

/-- It returns the error of a search that fails. -/
theorem iteration_fails {fail : Fail} (polls : round.pollBgWork waiting.stack = some polled)
    (searched : search pack qts 0 { waiting with stack := polled, completed := 0 } =
      .ok (after, some fail)) :
    iteration pack qts round waiting = .ok (after, some (.error fail)) := by
  unfold iteration
  rw [polls]
  dsimp only
  rw [searched]

/-- A turn of the loop keeps every result exactly if its search does not break off. -/
theorem iteration_keeps_iff (polls : round.pollBgWork waiting.stack = some polled) :
    (∀ after verdict, iteration pack qts round waiting = .ok (after, some verdict) →
      Keeps pack qts { waiting with stack := polled, completed := 0 } after verdict) ↔
    ¬ polled.BreaksOff qts fun count =>
      count < waiting.qrs.length ∧ count ≤ waiting.indices.length := by
  rw [← @search_keeps_iff _ pack qts { waiting with stack := polled, completed := 0 } rfl]
  constructor
  · intro keeps after fail searched
    exact keeps after _ (iteration_fails polls searched)
  · intro keeps after verdict returns
    obtain ⟨fail, rfl, searched⟩ | ⟨rfl, searched⟩ := iteration_returns polls returns
    · exact keeps after fail searched
    · obtain ⟨earlier, later, rfl, before⟩ := search_succeeds searched
      exact reports_of_searchAll before rfl

/-- While the loop goes on, it has only polled. -/
theorem waitLoop_waits (waits : waitLoop pack qts earlier waiting = .ok (between, none)) :
    pollAll earlier waiting.stack = some between.stack ∧ between.qrs = waiting.qrs ∧
      between.indices = waiting.indices := by
  induction earlier generalizing waiting with
  | nil =>
    cases waits
    exact ⟨rfl, rfl, rfl⟩
  | cons round earlier inductionHypothesis =>
    unfold waitLoop at waits
    split at waits
    · cases waits
    · cases waits
    rename_i next turn
    obtain ⟨polled, polls, rfl⟩ := iteration_waits turn
    rw [pollAll, polls]
    exact inductionHypothesis waits

/-- The round behind those in which the loop goes on. -/
theorem waitLoop_append (waits : waitLoop pack qts earlier waiting = .ok (between, none)) :
    waitLoop pack qts (earlier ++ [round]) waiting = iteration pack qts round between := by
  induction earlier generalizing waiting with
  | nil =>
    cases waits
    rw [List.nil_append, waitLoop]
    split
    · rename_i turn
      exact turn.symm
    · rename_i turn
      exact turn.symm
    · rename_i turn
      exact turn.symm
  | cons first earlier inductionHypothesis =>
    unfold waitLoop at waits
    rw [List.cons_append, waitLoop]
    split at waits
    · cases waits
    · cases waits
    exact inductionHypothesis waits

/-- The round in which a wait returns keeps every result. The rounds before it have only
polled, so the wait has begun with the stack that all the calls to `poll_bg_work` leave. -/
def KeepsLast (wait : List QToken → List WaitRound → Waiting ρ →
      Except WaitFault (Waiting ρ × Option (Except Fail Nat)))
    (pack : Packing ρ) (qts : List QToken) (rounds : List WaitRound) (start : Waiting ρ)
    (polled : InetStack) : Prop :=
  ∀ after verdict, wait qts rounds start = .ok (after, some verdict) →
    Keeps pack qts { start with stack := polled, completed := 0 } after verdict

/-- A wait keeps every result in its last round exactly if the tokens do not break it off, for
the rounds before have changed neither the lists nor the tokens. -/
theorem waitLoop_keeps_iff (waits : waitLoop pack qts earlier waiting = .ok (between, none))
    (polls : pollAll (earlier ++ [round]) waiting.stack = some polled) :
    KeepsLast (waitLoop pack) pack qts (earlier ++ [round]) waiting polled ↔
      ¬ polled.BreaksOff qts fun count =>
        count < waiting.qrs.length ∧ count ≤ waiting.indices.length := by
  obtain ⟨before, qrs, indices⟩ := waitLoop_waits waits
  rw [pollAll_append before] at polls
  unfold KeepsLast
  rw [waitLoop_append waits, ← qrs, ← indices]
  exact iteration_keeps_iff polls

/-- `wait_any_nonblocking2` keeps every result exactly if its search does not break off. -/
theorem waitAnyNonblocking2_keeps_iff {qts : List QToken}
    {pollBgWork : InetStack → Option InetStack}
    {start : Waiting (QDesc × OperationResult)} (polls : pollBgWork start.stack = some polled) :
    (∀ after verdict, waitAnyNonblocking2 qts pollBgWork start = .ok (after, verdict) →
      Keeps unpacked qts { start with stack := polled, completed := 0 } after verdict) ↔
    ¬ polled.BreaksOff qts fun count =>
      count ≤ start.qrs.length ∧ count ≤ start.indices.length := by
  rw [← @searchAll_keeps_iff _ unpacked qts { start with stack := polled, completed := 0 } rfl]
  unfold waitAnyNonblocking2
  rw [polls]
  dsimp only
  constructor
  · intro keeps after fail searched
    refine keeps after (.error fail) ?_
    rw [searched]
  · intro keeps after verdict returns
    split at returns
    · cases returns
    · rename_i found fail searched
      cases returns
      exact keeps after fail searched
    · rename_i found searched
      cases returns
      have reported : Keeps unpacked (qts ++ []) { start with stack := polled, completed := 0 }
          after (.ok after.completed) := reports_of_searchAll searched rfl
      rwa [List.append_nil] at reported

/-! ## The wait for one operation -/

/-- A wait for one operation keeps every result: it takes nothing, or the operation that it
reports, which is that of the token with the index that it reports. -/
def KeepsOne (qts : List QToken) (before after : InetStack) :
    Except Fail (Option (Nat × QDesc × OperationResult)) → Prop
  | .error _ | .ok none => ∀ qt, before.Remains after qt
  | .ok (some (index, reported)) => ∃ qt, qts[index]? = some qt ∧ before.Ready qt reported ∧
      after.scheduler.slab.get qt = none ∧ ∀ other, other ≠ qt → before.Remains after other

/-- The search that returns at the first completed token loses nothing: there is one result at
most, and it is returned. -/
theorem searchOne_keeps {index : Nat} {before after : InetStack}
    {verdict : Except Fail (Option (Nat × QDesc × OperationResult))}
    {earlier : List QToken} (behind : index = earlier.length)
    (returns : searchOne qts index before = .ok (after, verdict)) :
    KeepsOne (earlier ++ qts) before after verdict := by
  induction qts generalizing index earlier with
  | nil =>
    cases returns
    exact fun qt => .refl _ qt
  | cons qt qts inductionHypothesis =>
    unfold searchOne at returns
    split at returns
    · cases returns
    · cases returns
      exact fun qt => .refl _ qt
    · rename_i stack probes
      cases InetStack.probe_outcome probes with
      | pending idle =>
        have step : KeepsOne ((earlier ++ [qt]) ++ qts) before after verdict :=
          inductionHypothesis (by rw [behind, List.length_append]; rfl) returns
        rwa [List.append_assoc] at step
    · rename_i qd result stack probes
      cases InetStack.probe_outcome probes with
      | completed ready =>
        cases returns
        refine ⟨qt, ?_, ready, ?_, fun other different => InetStack.remains_without different⟩
        · rw [behind, List.getElem?_append_right (Nat.le_refl _), Nat.sub_self]
          rfl
        · rw [InetStack.without_get, if_pos rfl]

/-- `wait_any_nonblocking_one2` keeps every result. -/
theorem waitAnyNonblockingOne2_keeps {pollBgWork : InetStack → Option InetStack}
    {start after : InetStack} {verdict : Except Fail (Option (Nat × QDesc × OperationResult))}
    (polls : pollBgWork start = some polled)
    (returns : waitAnyNonblockingOne2 qts pollBgWork start = .ok (after, verdict)) :
    KeepsOne qts polled after verdict := by
  unfold waitAnyNonblockingOne2 at returns
  rw [polls] at returns
  have keeps : KeepsOne ([] ++ qts) polled after verdict := searchOne_keeps rfl returns
  exact keeps

end

/-! ## The four waits -/

/-- `wait_any2` and `wait_any` keep every result exactly if, in the stack that they search
in the end, they do not come to a token that is invalid or repeats a completed one behind a
completed one, before `qrs` is full. `wait_any_nonblocking2` does so exactly if it does not
come to such a token at all, and `wait_any_nonblocking_one2` always does.

Proof: the first two functions end in the same search, and the third in its variant that
goes on. A result that has been written is lost only when the search breaks off behind
it, so that keeping all results is that the search does not come to such a token. The
fourth function stops at its first result. -/
theorem waits_keep_results_iff {β : Type}
    (intoSgarray : Nat → Buffer → Except Fail (DemiSgarray β)) (qts : List QToken) :
    (∀ earlier round start between polled,
      waitAny2 qts earlier start = .ok (between, none) →
      pollAll (earlier ++ [round]) start.stack = some polled →
      (KeepsLast waitAny2 unpacked qts (earlier ++ [round]) start polled ↔
        ¬ polled.BreaksOff qts fun count =>
          count < start.qrs.length ∧ count ≤ start.indices.length)) ∧
    (∀ earlier round start between polled,
      waitAny intoSgarray qts earlier start = .ok (between, none) →
      pollAll (earlier ++ [round]) start.stack = some polled →
      (KeepsLast (waitAny intoSgarray) (packed intoSgarray) qts (earlier ++ [round]) start polled ↔
        ¬ polled.BreaksOff qts fun count =>
          count < start.qrs.length ∧ count ≤ start.indices.length)) ∧
    (∀ pollBgWork (start : Waiting (QDesc × OperationResult)) polled,
      pollBgWork start.stack = some polled →
      ((∀ after verdict, waitAnyNonblocking2 qts pollBgWork start = .ok (after, verdict) →
          Keeps unpacked qts { start with stack := polled, completed := 0 } after verdict) ↔
        ¬ polled.BreaksOff qts fun count =>
          count ≤ start.qrs.length ∧ count ≤ start.indices.length)) ∧
    (∀ pollBgWork start polled, pollBgWork start = some polled →
      ∀ after verdict, waitAnyNonblockingOne2 qts pollBgWork start = .ok (after, verdict) →
        KeepsOne qts polled after verdict) := by
  refine ⟨?_, ?_, ?_, ?_⟩
  · intro earlier round start between polled waits polls
    exact waitLoop_keeps_iff waits polls
  · intro earlier round start between polled waits polls
    exact waitLoop_keeps_iff waits polls
  · intro pollBgWork start polled polls
    exact waitAnyNonblocking2_keeps_iff polls
  · intro pollBgWork start polled polls after verdict returns
    exact waitAnyNonblockingOne2_keeps polls returns

/-- A stack with one operation, which has completed. -/
def oneCompleted : InetStack where
  scheduler := {
    slab := ⟨.occupied 0 :: List.replicate 15 .none, 1⟩
    pages := [⟨0, 1, 0⟩]
    inserted := 1
    handles := []
    visit := none }
  futures _ := .tcp (.push 3 (some (.ok ())))
  fileTable _ := none

/-- A wait for two tokens, with room for two results. -/
def oneOfTwo : Waiting (QDesc × OperationResult) where
  stack := oneCompleted
  qrs := [(0, .connect), (0, .connect)]
  indices := [0, 0]
  completed := 0

/-- A stack with two operations, of which those marked have completed. -/
def twoOperations (completed : BitVec 64) : InetStack where
  scheduler := {
    slab := ⟨.occupied 0 :: .occupied 1 :: List.replicate 14 .none, 2⟩
    pages := [⟨0, completed, 0⟩]
    inserted := 2
    handles := []
    visit := none }
  futures _ := .tcp (.push 3 (some (.ok ())))
  fileTable _ := none

/-- A wait for both operations: nothing has completed in the first round, and the operation
of the second token in the next one. The wait returns its result and keeps it. -/
theorem waits_keep_second_result :
    (∃ after, waitAny2 [1, 0] ([⟨some, false⟩] ++ [⟨fun _ => some (twoOperations 1), false⟩])
        { oneOfTwo with stack := twoOperations 0 } = .ok (after, some (.ok 1))) ∧
      KeepsLast waitAny2 unpacked [1, 0]
        ([⟨some, false⟩] ++ [⟨fun _ => some (twoOperations 1), false⟩])
        { oneOfTwo with stack := twoOperations 0 } (twoOperations 1) := by
  have split := waits_keep_results_iff (fun _ _ => .ok ⟨(), .zeroed⟩) [1, 0]
  refine ⟨⟨_, rfl⟩, (split.1 [⟨some, false⟩] ⟨fun _ => some (twoOperations 1), false⟩
    { oneOfTwo with stack := twoOperations 0 } _ (twoOperations 1) rfl rfl).mpr ?_⟩
  rintro ⟨earlier, qt, later, split, -, some, -⟩
  cases earlier with
  | nil => exact some rfl
  | cons first earlier =>
    -- Only the pending operation of the first token can stand before another token.
    obtain ⟨rfl, rest⟩ := List.cons.inj split
    cases earlier with
    | nil => exact some rfl
    | cons second earlier =>
      have lengths := congrArg List.length rest
      simp at lengths

/-- The operation of the first token is taken, and then the second token is invalid: the
result is lost with the error. -/
theorem not_waits_keep_results :
    ¬ ∀ qts earlier round start between polled,
      waitAny2 qts earlier start = .ok (between, none) →
      pollAll (earlier ++ [round]) start.stack = some polled →
      KeepsLast waitAny2 unpacked qts (earlier ++ [round]) start polled := by
  intro keeps
  have kept := keeps [0, 9] [] ⟨some, false⟩ oneOfTwo oneOfTwo oneCompleted rfl rfl
    ⟨oneCompleted.without 0, [(3, .push), (0, .connect)], [0, 0], 1⟩ (.error invalidQueueToken) rfl
  have slot := kept 0 rfl
  cases slot

end Capybara
