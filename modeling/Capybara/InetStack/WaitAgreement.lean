import Capybara.InetStack.KeptResults

/-!
# The blocking and the non-blocking wait

`wait_any2` stops where `qrs` is full, and `wait_any_nonblocking2` goes on. Up to that
point both do the same, so they agree exactly if every token behind it is pending: a token
that has completed is taken and its result written past the end, and a token that is
invalid or was taken before turns the count into an error.
-/

namespace Capybara

variable {ρ : Type}

/-- Every token behind those whose results fill the slices is pending. -/
def InetStack.Fits (stack : InetStack) (qts : List QToken) (capacity : Nat) : Prop :=
  ∀ earlier qt later, qts = earlier ++ qt :: later → stack.Collectable earlier →
    (stack.completions earlier).length = capacity → stack.Idle qt

namespace InetStack

variable {stack : InetStack} {qt : QToken} {qts : List QToken} {reported : QDesc × OperationResult}
  {capacity : Nat}

/-- No results fit anywhere. -/
theorem Fits.nil : stack.Fits [] capacity := by
  intro earlier qt later split
  simp at split

/-- With no room left, all tokens have to be pending. -/
theorem fits_zero_iff : stack.Fits qts 0 ↔ ∀ qt ∈ qts, stack.Idle qt := by
  constructor
  · intro fits
    induction qts with
    | nil => simp
    | cons qt qts inductionHypothesis =>
      have idle : stack.Idle qt := fits [] qt qts rfl (.nil stack) rfl
      have rest : stack.Fits qts 0 := by
        intro earlier other later split collectable full
        refine fits (qt :: earlier) other later (by rw [split]; rfl)
          ((collectable_idle idle).mpr collectable) ?_
        rw [completions_idle idle]
        exact full
      intro other member
      obtain rfl | later := List.mem_cons.mp member
      · exact idle
      · exact inductionHypothesis rest other later
  · intro idle earlier qt later split _ _
    refine idle qt ?_
    rw [split]
    exact List.mem_append_right _ List.mem_cons_self

/-- There is room for every result if `qrs` is as long as the list of tokens. -/
theorem fits_of_length (room : qts.length ≤ capacity) : stack.Fits qts capacity := by
  intro earlier qt later split _ full
  have fewer : (stack.completions earlier).length ≤ earlier.length := List.length_filter_le ..
  rw [split, List.length_append, List.length_cons] at room
  omega

/-- A token that stops the search leaves nothing behind it to look at. -/
theorem Fits.stopped (stopped : ¬ ∃ earlier, stack.Collectable (qt :: earlier)) :
    stack.Fits (qt :: qts) (capacity + 1) := by
  intro earlier other later split collectable full
  cases earlier with
  | nil => cases full
  | cons first earlier =>
    cases split
    exact absurd ⟨earlier, collectable⟩ stopped

/-- A pending token needs no room. -/
theorem fits_idle (idle : stack.Idle qt) :
    stack.Fits (qt :: qts) (capacity + 1) ↔ stack.Fits qts (capacity + 1) := by
  constructor
  · intro fits earlier other later split collectable full
    refine fits (qt :: earlier) other later (by rw [split]; rfl)
      ((collectable_idle idle).mpr collectable) ?_
    rw [completions_idle idle]
    exact full
  · intro fits earlier other later split collectable full
    cases earlier with
    | nil => cases full
    | cons first earlier =>
      cases split
      rw [completions_idle idle] at full
      exact fits earlier other later rfl ((collectable_idle idle).mp collectable) full

/-- An operation that is taken is not pending before, nor a valid token behind. -/
theorem idle_behind_ready (ready : stack.Ready qt reported) (other : QToken) :
    (stack.without qt).Idle other ↔ stack.Idle other := by
  by_cases same : other = qt
  · subst same
    constructor
    · intro idle
      refine absurd ?_ idle.occupied
      rw [without_get, if_pos rfl]
    · intro idle
      have complete := ready.complete
      rw [idle.incomplete] at complete
      cases complete
  · exact Idle.without_iff same

/-- A completed token needs room for one result. -/
theorem fits_ready (ready : stack.Ready qt reported) :
    stack.Fits (qt :: qts) (capacity + 1) ↔ (stack.without qt).Fits qts capacity := by
  have count {earlier : List QToken} (collectable : stack.Collectable (qt :: earlier)) :
      (stack.completions (qt :: earlier)).length =
        ((stack.without qt).completions earlier).length + 1 := by
    rw [completions_ready ready, completions_without (collectable.absent ready), List.length_cons]
  constructor
  · intro fits earlier other later split collectable full
    have whole := (collectable_ready ready).mpr collectable
    refine (idle_behind_ready ready other).mpr
      (fits (qt :: earlier) other later (by rw [split]; rfl) whole ?_)
    rw [count whole, full]
  · intro fits earlier other later split collectable full
    cases earlier with
    | nil => cases full
    | cons first earlier =>
      cases split
      rw [count collectable] at full
      exact (idle_behind_ready ready other).mp
        (fits earlier other later rfl ((collectable_ready ready).mp collectable)
          (Nat.succ.inj full))

end InetStack

/-! ## One search -/

section

variable {pack : Packing ρ} {index : Nat} {qts : List QToken} {waiting : Waiting ρ}

/-- A search changes nothing exactly if all tokens are pending. -/
theorem searchAll_unchanged_iff :
    searchAll pack qts index waiting = .ok (waiting, none) ↔
      ∀ qt ∈ qts, waiting.stack.Idle qt := by
  constructor
  · intro searched qt member
    obtain ⟨collectable, picks, reports, completions⟩ := searchAll_collects searched
    have none : picks = [] := List.eq_nil_of_length_eq_zero (Nat.left_eq_add.mp reports.count)
    rw [none, List.map_nil] at completions
    obtain idle | ⟨reported, ready⟩ := collectable.each qt member
    · exact idle
    · have among : qt ∈ waiting.stack.completions qts := List.mem_filter.mpr ⟨member, ready.complete⟩
      rw [← completions] at among
      cases among
  · intro idle
    induction qts generalizing index with
    | nil => rfl
    | cons qt qts inductionHypothesis =>
      rw [searchAll, examine_idle (idle qt List.mem_cons_self)]
      exact inductionHypothesis fun other member => idle other (List.mem_cons_of_mem _ member)

/-- Where the search gets stuck at a token, no list that begins with it is collectable. -/
theorem not_collectable {qt : QToken} (space : waiting.Room (waiting.completed + 1))
    (stuck : ∀ next, examine pack index qt waiting ≠ .ok (.ok next)) :
    ¬ ∃ earlier, waiting.stack.Collectable (qt :: earlier) := by
  rintro ⟨earlier, collectable⟩
  obtain idle | ⟨reported, ready⟩ := collectable.each qt List.mem_cons_self
  · exact stuck _ (examine_idle idle)
  · exact stuck _ (examine_ready ready space)

/-- Both searches have the same outcome exactly if the completed operations fit. -/
theorem searchAll_eq_iff {capacity : Nat} (sameLength : waiting.indices.length = waiting.qrs.length)
    (room : waiting.completed + capacity = waiting.qrs.length) :
    searchAll pack qts index waiting = search pack qts index waiting ↔
      waiting.stack.Fits qts capacity := by
  induction qts generalizing index waiting capacity with
  | nil => exact iff_of_true rfl .nil
  | cons qt qts inductionHypothesis =>
    rw [search]
    cases capacity with
    | zero =>
      rw [Nat.add_zero] at room
      rw [if_pos room, InetStack.fits_zero_iff]
      exact searchAll_unchanged_iff
    | succ capacity =>
      have space : waiting.Room (waiting.completed + 1) := ⟨by omega, by omega⟩
      rw [if_neg (by omega), searchAll]
      cases examines : examine pack index qt waiting with
      | error fault =>
        have stuck (next : Waiting ρ) : examine pack index qt waiting ≠ .ok (.ok next) := by
          rw [examines]
          intro wrong
          cases wrong
        exact iff_of_true rfl (.stopped (not_collectable space stuck))
      | ok examined =>
        cases examined with
        | error fail =>
          have stuck (next : Waiting ρ) : examine pack index qt waiting ≠ .ok (.ok next) := by
            rw [examines]
            intro wrong
            cases wrong
          exact iff_of_true rfl (.stopped (not_collectable space stuck))
        | ok next =>
          cases examine_ok examines with
          | pending idle =>
            rw [InetStack.fits_idle idle]
            exact inductionHypothesis sameLength room
          | @stored reported ready space =>
            rw [InetStack.fits_ready ready]
            refine inductionHypothesis ?_ ?_
            · simpa [Waiting.store] using sameLength
            · dsimp only [Waiting.store]
              rw [List.length_set]
              omega

/-- Looking at a token writes nothing. -/
theorem probe_inside (qt : QToken) (stack : InetStack) : probe qt stack ≠ .error .pastEnd := by
  rw [InetStack.probe_eq]
  split
  · simp
  split
  · simp
  split
  · split
    · simp
    split
    · simp
    · split
      · simp
      · split <;> simp
  · simp

/-- The search that stops where `qrs` is full does not write past the end. -/
theorem search_inside (sameLength : waiting.indices.length = waiting.qrs.length)
    (room : waiting.completed ≤ waiting.qrs.length) :
    search pack qts index waiting ≠ .error .pastEnd := by
  induction qts generalizing index waiting with
  | nil => simp [search]
  | cons qt qts inductionHypothesis =>
    rw [search]
    split
    · simp
    rename_i space
    cases examines : examine pack index qt waiting with
    | error fault =>
      dsimp only
      rintro ⟨⟩
      unfold examine at examines
      split at examines
      · rename_i fault probes
        cases examines
        exact probe_inside _ _ probes
      · cases examines
      · cases examines
      · rw [if_pos (by omega)] at examines
        cases examines
    | ok examined =>
      cases examined with
      | error fail => simp
      | ok next =>
        cases examine_ok examines with
        | pending idle => exact inductionHypothesis sameLength room
        | @stored reported ready space =>
          refine inductionHypothesis ?_ ?_
          · simpa [Waiting.store] using sameLength
          · dsimp only [Waiting.store]
            rw [List.length_set]
            omega

end

/-! ## One turn of the loop -/

/-- What `wait_any2` returns in a turn of its loop, where the turn that does not return
counts as one that returns no results. -/
def oneTurn (qts : List QToken) (round : WaitRound) (start : Waiting (QDesc × OperationResult)) :
    Except WaitFault (Waiting (QDesc × OperationResult) × Except Fail Nat) :=
  (iteration unpacked qts round start).map fun (after, verdict) => (after, verdict.getD (.ok 0))

/-- What is returned behind a search. -/
def concluded (outcome : Except WaitFault (Waiting ρ × Option Fail)) :
    Except WaitFault (Waiting ρ × Except Fail Nat) :=
  outcome.map fun
    | (waiting, some fail) => (waiting, .error fail)
    | (waiting, none) => (waiting, .ok waiting.completed)

/-- The conclusion of a search says all of its outcome. -/
theorem concluded_eq_iff {outcome outcome' : Except WaitFault (Waiting ρ × Option Fail)} :
    concluded outcome = concluded outcome' ↔ outcome = outcome' := by
  refine ⟨fun same => ?_, congrArg concluded⟩
  obtain fault | ⟨waiting, _ | fail⟩ := outcome <;>
    obtain fault' | ⟨waiting', _ | fail'⟩ := outcome' <;>
    simp_all [concluded, Except.map]

/-- A conclusion writes behind the end exactly if the search does. -/
theorem concluded_inside {outcome : Except WaitFault (Waiting ρ × Option Fail)} :
    concluded outcome = .error .pastEnd ↔ outcome = .error .pastEnd :=
  @concluded_eq_iff _ outcome (.error .pastEnd)

/-- A turn of the loop in terms of its search. -/
theorem oneTurn_eq {qts : List QToken} {round : WaitRound}
    {start : Waiting (QDesc × OperationResult)} {polled : InetStack}
    (polls : round.pollBgWork start.stack = some polled) : oneTurn qts round start =
      concluded (search unpacked qts 0 { start with stack := polled, completed := 0 }) := by
  unfold oneTurn iteration
  rw [polls]
  dsimp only
  cases search unpacked qts 0 { start with stack := polled, completed := 0 } with
  | error fault => rfl
  | ok found =>
    obtain ⟨waiting, _ | fail⟩ := found
    · dsimp only
      split
      · rfl
      rename_i empty
      have none : waiting.completed = 0 := Nat.eq_zero_of_not_pos empty
      unfold concluded
      cases round.expired with
      | true => simp [Except.map, none]
      | false => simp [Except.map, none]
    · rfl

/-- The call that does not block in terms of its search. -/
theorem waitAnyNonblocking2_eq {qts : List QToken} {pollBgWork : InetStack → Option InetStack}
    {start : Waiting (QDesc × OperationResult)} {polled : InetStack}
    (polls : pollBgWork start.stack = some polled) : waitAnyNonblocking2 qts pollBgWork start =
      concluded (searchAll unpacked qts 0 { start with stack := polled, completed := 0 }) := by
  unfold waitAnyNonblocking2
  rw [polls]
  dsimp only
  cases searchAll unpacked qts 0 { start with stack := polled, completed := 0 } with
  | error fault => rfl
  | ok found =>
    obtain ⟨waiting, _ | fail⟩ := found
    · rfl
    · rfl

/-- `wait_any_nonblocking2` does what one turn of `wait_any2` does, and never writes past
the end, exactly if every token behind those whose results fill `qrs` is pending.

Proof: both functions poll alike and differ in their search. The two searches do the
same as long as there is room; the one without the test then goes on, which shows
exactly if it comes to a token that is not pending. -/
theorem nonblocking_agrees_iff {qts : List QToken} {round : WaitRound}
    {start : Waiting (QDesc × OperationResult)}
    (sameLength : start.indices.length = start.qrs.length) :
    (waitAnyNonblocking2 qts round.pollBgWork start = oneTurn qts round start ∧
      waitAnyNonblocking2 qts round.pollBgWork start ≠ .error .pastEnd) ↔
    ∀ polled, round.pollBgWork start.stack = some polled → polled.Fits qts start.qrs.length := by
  cases polls : round.pollBgWork start.stack with
  | none =>
    refine iff_of_true ⟨?_, ?_⟩ nofun
    · unfold waitAnyNonblocking2 oneTurn iteration
      rw [polls]
      rfl
    · unfold waitAnyNonblocking2
      rw [polls]
      exact nofun
  | some polled =>
    rw [waitAnyNonblocking2_eq polls, oneTurn_eq polls]
    have agrees : searchAll unpacked qts 0 { start with stack := polled, completed := 0 } =
        search unpacked qts 0 { start with stack := polled, completed := 0 } ↔
          polled.Fits qts start.qrs.length :=
      searchAll_eq_iff sameLength (Nat.zero_add _)
    constructor
    · rintro ⟨same, -⟩ found ⟨⟩
      exact agrees.mp (concluded_eq_iff.mp same)
    · intro fits
      have inside : search unpacked qts 0 { start with stack := polled, completed := 0 } ≠
          .error .pastEnd := search_inside sameLength (Nat.zero_le _)
      rw [agrees.mpr (fits polled rfl)]
      exact ⟨rfl, fun past => inside (concluded_inside.mp past)⟩

/-- Two operations that have completed. -/
def twoCompleted : InetStack where
  scheduler := {
    slab := ⟨.occupied 0 :: .occupied 1 :: List.replicate 14 .none, 2⟩
    pages := [⟨0, 3, 0⟩]
    inserted := 2
    handles := []
    visit := none }
  futures _ := .tcp (.push 3 (some (.ok ())))
  fileTable _ := none

/-- With room for both results, the calls agree. -/
theorem nonblocking_agrees_on_two :
    waitAnyNonblocking2 [0, 1] some ⟨twoCompleted, [(0, .connect), (0, .connect)], [0, 0], 0⟩ =
      oneTurn [0, 1] ⟨some, false⟩
        ⟨twoCompleted, [(0, .connect), (0, .connect)], [0, 0], 0⟩ := by
  have agrees := @nonblocking_agrees_iff [0, 1] ⟨some, false⟩
    ⟨twoCompleted, [(0, .connect), (0, .connect)], [0, 0], 0⟩ rfl
  exact (agrees.mpr fun polled _ => InetStack.fits_of_length (Nat.le_refl 2)).1

/-- With room for one result, the second is written past the end. -/
theorem nonblocking_writes_past_end :
    (∀ qt ∈ [0, 1], twoCompleted.scheduler.slab.get qt ≠ none) ∧
      waitAnyNonblocking2 [0, 1] some ⟨twoCompleted, [(0, .connect)], [0], 0⟩ = .error .pastEnd ∧
      ∃ after, oneTurn [0, 1] ⟨some, false⟩ ⟨twoCompleted, [(0, .connect)], [0], 0⟩ =
        .ok (after, .ok 1) :=
  ⟨by decide, rfl, _, rfl⟩

end Capybara
