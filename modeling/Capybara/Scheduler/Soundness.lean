import Capybara.Scheduler.Scheduler

/-!
# What holds of every scheduler

Each task has one slot; a handle that is held belongs to an occupied slot that is not
marked as dropped, and what is marked as dropped is occupied. The call to `poll` in
progress has taken each bit of its page once, and no slot is both notified and dropped.
-/

namespace Capybara

open Runs

/-- The lists of a visit name each slot of the page at most once. -/
structure Visit.Sound (visit : Visit) : Prop where
  page : visit.page < visit.pages
  notifiedInside : ∀ ix ∈ visit.notified, ix < 64
  droppedInside : ∀ ix ∈ visit.dropped, ix < 64
  runningInside : ∀ ix, visit.running = some ix → ix < 64
  notifiedOnce : visit.notified.Nodup
  droppedOnce : visit.dropped.Nodup
  apart : ∀ ix ∈ visit.notified, ix ∉ visit.dropped
  runningApart : ∀ ix, visit.running = some ix → ix ∉ visit.notified ∧ ix ∉ visit.dropped

namespace Visit

variable {visit : Visit}

/-- A slot of a page has one key. -/
@[simp] theorem key_inj {ix other : Nat} : visit.key ix = visit.key other ↔ ix = other :=
  Nat.add_left_cancel_iff

/-- The key of a slot tells its page. -/
theorem key_div {ix : Nat} (inside : ix < 64) : visit.key ix / 64 = visit.page := by
  unfold key
  omega

end Visit

namespace Scheduler

/-- The invariant of a scheduler. -/
structure Sound (scheduler : Scheduler) : Prop where
  slab : scheduler.slab.Sound
  numbered : ∀ key task, scheduler.slab.get key = some task → task < scheduler.inserted
  distinct : ∀ key other task, scheduler.slab.get key = some task →
    scheduler.slab.get other = some task → key = other
  covered : ∀ key, scheduler.slab.get key ≠ none → key / 64 < scheduler.pages.length
  once : scheduler.handles.Nodup
  held : ∀ key ∈ scheduler.handles, scheduler.slab.get key ≠ none ∧
    flag WakerPage.dropped scheduler.pages key = false ∧ key ∉ scheduler.dropping
  dropped : ∀ key, flag WakerPage.dropped scheduler.pages key = true →
    scheduler.slab.get key ≠ none
  dropping : ∀ key ∈ scheduler.dropping, scheduler.slab.get key ≠ none
  visits : ∀ visit, scheduler.visit = some visit →
    visit.Sound ∧ visit.pages ≤ scheduler.pages.length

/-- A new scheduler is sound. -/
theorem Sound.default : Sound default where
  slab := .new
  numbered := by intro key task found; simp [Scheduler.default, PinSlab.new, PinSlab.get] at found
  distinct := by intro key other task found; simp [Scheduler.default, PinSlab.new, PinSlab.get] at found
  covered := by intro key found; simp [Scheduler.default, PinSlab.new, PinSlab.get] at found
  once := List.nodup_nil
  held := by intro key member; cases member
  dropped := by intro key set; cases set
  dropping := by intro key member; cases member
  visits := by intro visit visits; cases visits

variable {scheduler scheduler' : Scheduler}

/-- The keys of a call, as far as the visit is known. -/
theorem mem_polling {visit : Visit} (visits : scheduler.visit = some visit) {key : Nat} :
    key ∈ scheduler.polling ↔ ∃ ix ∈ visit.notified, visit.key ix = key := by
  simp [polling, visits]

/-- The tasks that will be dropped are those whose flag the visit has found. -/
theorem mem_dropping {visit : Visit} (visits : scheduler.visit = some visit) {key : Nat} :
    key ∈ scheduler.dropping ↔ ∃ ix ∈ visit.dropped, visit.key ix = key := by
  simp [dropping, visits]

/-- A vacant slot is neither marked as dropped nor about to be removed. -/
theorem Sound.vacant (sound : scheduler.Sound) {key : Nat} (vacant : scheduler.slab.get key = none) :
    flag WakerPage.dropped scheduler.pages key = false ∧ key ∉ scheduler.dropping ∧
      key ∉ scheduler.handles := by
  refine ⟨?_, ?_, ?_⟩
  · by_contra set
    exact sound.dropped key (Bool.of_not_eq_false set) vacant
  · intro member
    exact sound.dropping key member vacant
  · intro member
    exact (sound.held key member).1 vacant

/-- What an insertion does. -/
theorem Sound.insert (sound : scheduler.Sound) {key : Nat} {slab : PinSlab Nat}
    (inserts : scheduler.slab.insert scheduler.inserted = some (key, slab)) :
    slab.Sound ∧ scheduler.slab.get key = none ∧
    (∀ other, slab.get other =
      if other = key then some scheduler.inserted else scheduler.slab.get other) := by
  obtain ⟨_, _, inserted, after⟩ := sound.slab.insert scheduler.inserted
  rw [inserts] at inserted
  obtain ⟨rfl, rfl⟩ := Prod.mk.inj (Option.some.inj inserted)
  exact after

/-- The pages after an insertion cover its key and those from before. -/
theorem length_grown (key : Nat) (pages : List WakerPage) :
    key / 64 < (pages ++
      List.replicate (key / 64 + 1 - pages.length) WakerPage.default).length ∧
    pages.length ≤ (pages ++
      List.replicate (key / 64 + 1 - pages.length) WakerPage.default).length := by
  simp only [List.length_append, List.length_replicate]
  omega

/-- The invariant after an insertion. -/
theorem Sound.inserted (sound : scheduler.Sound) {key : Nat} {slab : PinSlab Nat}
    (inserts : scheduler.slab.insert scheduler.inserted = some (key, slab)) :
    Sound { scheduler with
      slab
      pages := onPage (scheduler.pages ++
        List.replicate (key / 64 + 1 - scheduler.pages.length) WakerPage.default) key .initialize_
      inserted := scheduler.inserted + 1
      handles := key :: scheduler.handles } := by
  obtain ⟨sound', vacant, get⟩ := sound.insert inserts
  obtain ⟨clear, undropping, unheld⟩ := sound.vacant vacant
  obtain ⟨covers, longer⟩ := length_grown key scheduler.pages
  have dropped (other : Nat) : flag WakerPage.dropped (onPage (scheduler.pages ++
      List.replicate (key / 64 + 1 - scheduler.pages.length) WakerPage.default) key .initialize_)
      other = (decide (other ≠ key) && flag WakerPage.dropped scheduler.pages other) := by
    rw [flag_clear (fun _ _ => rfl), flag_append rfl]
  have old {other : Nat} (different : other ≠ key) : slab.get other = scheduler.slab.get other := by
    rw [get, if_neg different]
  refine ⟨sound', ?_, ?_, ?_, List.nodup_cons.mpr ⟨unheld, sound.once⟩, ?_, ?_, ?_, ?_⟩
  · intro other task found
    dsimp only at found ⊢
    rw [get] at found
    split at found
    · cases found
      exact Nat.lt_succ_self _
    · exact Nat.lt_succ_of_lt (sound.numbered other task found)
  · intro one other task here there
    dsimp only at here there
    rw [get] at here there
    by_cases first : one = key
    · by_cases second : other = key
      · rw [first, second]
      · rw [if_pos first] at here
        rw [if_neg second] at there
        cases here
        exact absurd (sound.numbered other _ there) (Nat.lt_irrefl _)
    · rw [if_neg first] at here
      by_cases second : other = key
      · rw [if_pos second] at there
        cases there
        exact absurd (sound.numbered one _ here) (Nat.lt_irrefl _)
      · rw [if_neg second] at there
        exact sound.distinct one other task here there
  · intro other found
    dsimp only at found ⊢
    rw [length_onPage]
    by_cases same : other = key
    · rw [same]
      exact covers
    · rw [old same] at found
      exact Nat.lt_of_lt_of_le (sound.covered other found) longer
  · intro other member
    obtain rfl | earlier := List.mem_cons.mp member
    · refine ⟨?_, ?_, undropping⟩
      · dsimp only
        rw [get, if_pos rfl]
        exact Option.some_ne_none _
      · dsimp only
        rw [dropped]
        simp
    · have different : other ≠ key := by
        rintro rfl
        exact unheld earlier
      obtain ⟨occupied, unmarked, kept⟩ := sound.held other earlier
      refine ⟨?_, ?_, kept⟩
      · dsimp only
        rw [old different]
        exact occupied
      · dsimp only
        rw [dropped, unmarked, Bool.and_false]
  · intro other set
    dsimp only at set ⊢
    rw [dropped, Bool.and_eq_true, decide_eq_true_eq] at set
    rw [old set.1]
    exact sound.dropped other set.2
  · intro other member
    dsimp only
    rw [old]
    · exact sound.dropping other member
    · rintro rfl
      exact undropping member
  · intro visit visits
    obtain ⟨inner, shorter⟩ := sound.visits visit visits
    refine ⟨inner, ?_⟩
    dsimp only
    rw [length_onPage]
    exact Nat.le_trans shorter longer

/-- The invariant does not depend on the other flags. -/
theorem Sound.flagged (sound : scheduler.Sound) {pages : List WakerPage}
    (same : ∀ key, flag WakerPage.dropped pages key = flag WakerPage.dropped scheduler.pages key)
    (length : pages.length = scheduler.pages.length) : Sound { scheduler with pages } where
  slab := sound.slab
  numbered := sound.numbered
  distinct := sound.distinct
  covered key found := Nat.lt_of_lt_of_eq (sound.covered key found) length.symm
  once := sound.once
  held key member := by
    obtain ⟨occupied, unmarked, kept⟩ := sound.held key member
    exact ⟨occupied, (same key).trans unmarked, kept⟩
  dropped key set := sound.dropped key ((same key).symm.trans set)
  dropping := sound.dropping
  visits visit visits := by
    obtain ⟨inner, shorter⟩ := sound.visits visit visits
    exact ⟨inner, Nat.le_trans shorter (Nat.le_of_eq length.symm)⟩

/-- The invariant after a handle was dropped. -/
theorem Sound.afterDrop (sound : scheduler.Sound) {key : Nat} (held : key ∈ scheduler.handles) :
    Sound { scheduler with
      pages := onPage scheduler.pages key .markDropped
      handles := scheduler.handles.erase key } := by
  obtain ⟨occupied, -, -⟩ := sound.held key held
  have covered := sound.covered key occupied
  refine ⟨sound.slab, sound.numbered, sound.distinct, ?_, sound.once.erase key, ?_, ?_,
    sound.dropping, ?_⟩
  · intro other found
    exact Nat.lt_of_lt_of_eq (sound.covered other found) (length_onPage key).symm
  · intro other member
    obtain ⟨different, member⟩ := (sound.once.mem_erase_iff).mp member
    obtain ⟨there, unmarked, kept⟩ := sound.held other member
    refine ⟨there, ?_, kept⟩
    dsimp only
    rw [flag_set (fun _ _ => rfl) covered, unmarked]
    simpa using different
  · intro other set
    dsimp only at set ⊢
    rw [flag_set (fun _ _ => rfl) covered, Bool.or_eq_true, decide_eq_true_eq] at set
    obtain rfl | set := set
    · exact occupied
    · exact sound.dropped other set
  · intro visit visits
    obtain ⟨inner, shorter⟩ := sound.visits visit visits
    exact ⟨inner, Nat.le_trans shorter (Nat.le_of_eq (length_onPage key).symm)⟩

/-- The invariant after a slot was vacated: its handle is gone, and the call to `poll` has
nothing left to remove there. -/
theorem Sound.vacated (sound : scheduler.Sound) {key : Nat} {handles : List Nat}
    {visit : Option Visit} (once : handles.Nodup)
    (others : ∀ other ∈ handles, other ≠ key ∧ other ∈ scheduler.handles)
    (fewer : ∀ other, other ∈ ({ scheduler with visit } : Scheduler).dropping →
      other ≠ key ∧ other ∈ scheduler.dropping)
    (visits : ∀ inner, visit = some inner → inner.Sound ∧ inner.pages ≤ scheduler.pages.length) :
    Sound { scheduler with
      slab := scheduler.slab.remove key
      pages := onPage scheduler.pages key .clear
      handles, visit } := by
  obtain ⟨sound', get⟩ := sound.slab.remove key
  have old {other : Nat} (different : other ≠ key) :
      (scheduler.slab.remove key).get other = scheduler.slab.get other := by
    rw [get, if_neg different]
  have still {other task : Nat} (found : (scheduler.slab.remove key).get other = some task) :
      scheduler.slab.get other = some task := by
    rw [get] at found
    split at found
    · cases found
    · exact found
  refine ⟨sound', ?_, ?_, ?_, once, ?_, ?_, ?_, ?_⟩
  · intro other task found
    exact sound.numbered other task (still found)
  · intro one other task here there
    exact sound.distinct one other task (still here) (still there)
  · intro other found
    obtain ⟨task, found⟩ := Option.ne_none_iff_exists'.mp found
    exact Nat.lt_of_lt_of_eq (sound.covered other (by rw [still found]; exact Option.some_ne_none _))
      (length_onPage key).symm
  · intro other member
    obtain ⟨different, member⟩ := others other member
    obtain ⟨occupied, unmarked, kept⟩ := sound.held other member
    refine ⟨?_, ?_, fun dropping => kept (fewer other dropping).2⟩
    · dsimp only
      rw [old different]
      exact occupied
    · dsimp only
      rw [flag_clear (fun _ _ => rfl), unmarked, Bool.and_false]
  · intro other set
    dsimp only at set ⊢
    rw [flag_clear (fun _ _ => rfl), Bool.and_eq_true, decide_eq_true_eq] at set
    rw [old set.1]
    exact sound.dropped other set.2
  · intro other member
    obtain ⟨different, member⟩ := fewer other member
    dsimp only
    rw [old different]
    exact sound.dropping other member
  · intro inner same
    obtain ⟨inside, shorter⟩ := visits inner same
    exact ⟨inside, Nat.le_trans shorter (Nat.le_of_eq (length_onPage key).symm)⟩

/-- The invariant when the call to `poll` goes on without touching slots. -/
theorem Sound.visiting (sound : scheduler.Sound) {visit : Option Visit}
    (fewer : ∀ key, key ∈ ({ scheduler with visit } : Scheduler).dropping →
      key ∈ scheduler.dropping)
    (visits : ∀ inner, visit = some inner → inner.Sound ∧ inner.pages ≤ scheduler.pages.length) :
    Sound { scheduler with visit } where
  slab := sound.slab
  numbered := sound.numbered
  distinct := sound.distinct
  covered := sound.covered
  once := sound.once
  held key member := by
    obtain ⟨occupied, unmarked, kept⟩ := sound.held key member
    exact ⟨occupied, unmarked, fun dropping => kept (fewer key dropping)⟩
  dropped := sound.dropped
  dropping key member := sound.dropping key (fewer key member)
  visits := visits

/-- The lists that a page gives to a visit. -/
theorem entered_visit (current : WakerPage) {page pages : Nat} (inside : page < pages) :
    Visit.Sound {
      page, pages, running := none
      notified := bits (current.notified &&& ~~~current.completed &&& ~~~current.dropped)
      dropped := bits current.dropped } where
  page := inside
  notifiedInside ix member := BitVec.lt_of_getLsbD (mem_bits.mp member)
  droppedInside ix member := BitVec.lt_of_getLsbD (mem_bits.mp member)
  runningInside := by simp
  notifiedOnce := bits_nodup _
  droppedOnce := bits_nodup _
  apart := by
    intro ix member dropped
    have notified := mem_bits.mp member
    have marked := mem_bits.mp dropped
    rw [BitVec.getLsbD_and, BitVec.getLsbD_not, marked] at notified
    simp at notified
  runningApart := by simp

/-- The invariant when the call to `poll` comes to a page. -/
theorem Sound.entered (sound : scheduler.Sound) {page pages : Nat} {current : WakerPage}
    (inside : page < pages) (known : pages ≤ scheduler.pages.length)
    (found : scheduler.pages[page]? = some current) :
    Sound { scheduler with
      pages := scheduler.pages.set page { current with notified := 0, dropped := 0 }
      visit := some {
        page, pages, running := none
        notified := bits (current.notified &&& ~~~current.completed &&& ~~~current.dropped)
        dropped := bits current.dropped } } := by
  have within : page < scheduler.pages.length := (List.getElem?_eq_some_iff.mp found).1
  have marked (key : Nat) : flag WakerPage.dropped
      (scheduler.pages.set page { current with notified := 0, dropped := 0 }) key = true →
        flag WakerPage.dropped scheduler.pages key = true := by
    rw [flag_replace within]
    split
    · simp
    · exact id
  have taken {ix : Nat} (member : ix ∈ bits current.dropped) :
      flag WakerPage.dropped scheduler.pages (page * 64 + ix) = true := by
    have bit := mem_bits.mp member
    rw [flag_at found (BitVec.lt_of_getLsbD bit)]
    exact bit
  refine ⟨sound.slab, sound.numbered, sound.distinct, ?_, sound.once, ?_, ?_, ?_, ?_⟩
  · intro key occupied
    exact Nat.lt_of_lt_of_eq (sound.covered key occupied) (List.length_set).symm
  · intro key member
    obtain ⟨occupied, unmarked, -⟩ := sound.held key member
    refine ⟨occupied, ?_, ?_⟩
    · by_contra set
      rw [marked key (Bool.of_not_eq_false set)] at unmarked
      cases unmarked
    · intro dropping
      obtain ⟨ix, among, rfl⟩ := (mem_dropping rfl).mp dropping
      have set := taken among
      unfold Visit.key at unmarked
      dsimp only at unmarked
      rw [set] at unmarked
      cases unmarked
  · intro key set
    exact sound.dropped key (marked key set)
  · intro key member
    obtain ⟨ix, among, rfl⟩ := (mem_dropping rfl).mp member
    exact sound.dropped _ (taken among)
  · intro visit visits
    cases visits
    exact ⟨entered_visit current inside, Nat.le_trans known (Nat.le_of_eq List.length_set.symm)⟩

/-- Every action keeps the invariant. -/
theorem sound_step {action : SchedulerAction} (sound : scheduler.Sound)
    (advanced : scheduler.step action = .ok scheduler') : scheduler'.Sound := by
  cases step_outcome advanced with
  | idle => exact sound
  | inserted inserts => exact sound.inserted inserts
  | woken key => exact sound.flagged (flag_same _ .notify (fun _ _ => rfl) key) (length_onPage key)
  | dropped held => exact sound.afterDrop held
  | @taken key held =>
    obtain ⟨-, -, kept⟩ := sound.held key held
    refine sound.vacated (sound.once.erase key) ?_ ?_ sound.visits
    · intro other member
      exact sound.once.mem_erase_iff.mp member
    · intro other dropping
      refine ⟨?_, dropping⟩
      rintro rfl
      exact kept dropping
  | entered from_ inside found =>
    refine sound.entered inside ?_ found
    obtain ⟨-, -, rfl, rfl⟩ | ⟨-, visit, visits, -, -, -, rfl, rfl⟩ := from_
    · exact Nat.le_refl _
    · exact (sound.visits visit visits).2
  | ended =>
    refine sound.visiting ?_ ?_
    · intro key dropping
      cases dropping
    · intro inner same
      cases same
  | @polled visit ix task notified visits still next occupied =>
    obtain ⟨inner, shorter⟩ := sound.visits visit visits
    refine sound.visiting ?_ ?_
    · intro key dropping
      obtain ⟨offset, among, rfl⟩ := (mem_dropping rfl).mp dropping
      exact (mem_dropping visits).mpr ⟨offset, among, rfl⟩
    · intro after same
      cases same
      have once := inner.notifiedOnce
      rw [next] at once
      have member {other : Nat} (later : other ∈ notified) : other ∈ visit.notified := by
        rw [next]
        exact List.mem_cons_of_mem _ later
      have first : ix ∈ visit.notified := by
        rw [next]
        exact List.mem_cons_self
      refine ⟨⟨inner.page, fun other later => inner.notifiedInside other (member later),
        inner.droppedInside, ?_, once.of_cons, inner.droppedOnce,
        fun other later => inner.apart other (member later), ?_⟩, shorter⟩
      · intro other runs
        cases runs
        exact inner.notifiedInside ix first
      · intro other runs
        cases runs
        exact ⟨(List.nodup_cons.mp once).1, inner.apart ix first⟩
  | @removed visit ix dropped visits still polled next later =>
    obtain ⟨inner, shorter⟩ := sound.visits visit visits
    have once := inner.droppedOnce
    rw [next] at once
    have member {other : Nat} (among : other ∈ dropped) : other ∈ visit.dropped := by
      rw [next]
      exact List.mem_cons_of_mem _ among
    have first : visit.key ix ∈ scheduler.dropping := by
      refine (mem_dropping visits).mpr ⟨ix, ?_, rfl⟩
      rw [next]
      exact List.mem_cons_self
    refine sound.vacated sound.once ?_ ?_ ?_
    · intro other held
      refine ⟨?_, held⟩
      rintro rfl
      exact (sound.held _ held).2.2 first
    · intro other dropping
      obtain ⟨offset, among, rfl⟩ := (mem_dropping rfl).mp dropping
      refine ⟨?_, (mem_dropping visits).mpr ⟨offset, member among, rfl⟩⟩
      intro same
      obtain rfl : offset = ix := Nat.add_left_cancel same
      exact (List.nodup_cons.mp once).1 among
    · intro after same
      cases same
      exact ⟨⟨inner.page, inner.notifiedInside, fun other among => inner.droppedInside other
        (member among), inner.runningInside, inner.notifiedOnce, once.of_cons,
        fun other notified among => inner.apart other notified (member among),
        fun other runs => ⟨(inner.runningApart other runs).1,
          fun among => (inner.runningApart other runs).2 (member among)⟩⟩, shorter⟩
  | @spared visit dropped visits still polled next =>
    obtain ⟨inner, shorter⟩ := sound.visits visit visits
    have once := inner.droppedOnce
    rw [next] at once
    have member {other : Nat} (among : other ∈ dropped) : other ∈ visit.dropped := by
      rw [next]
      exact List.mem_cons_of_mem _ among
    refine sound.visiting ?_ ?_
    · intro key dropping
      obtain ⟨offset, among, rfl⟩ := (mem_dropping rfl).mp dropping
      exact (mem_dropping visits).mpr ⟨offset, member among, rfl⟩
    · intro after same
      cases same
      exact ⟨⟨inner.page, inner.notifiedInside, fun other among => inner.droppedInside other
        (member among), inner.runningInside, inner.notifiedOnce, once.of_cons,
        fun other notified among => inner.apart other notified (member among),
        fun other runs => ⟨(inner.runningApart other runs).1,
          fun among => (inner.runningApart other runs).2 (member among)⟩⟩, shorter⟩
  | @returned visit ix ready visits running =>
    obtain ⟨inner, shorter⟩ := sound.visits visit visits
    have ended : Sound { scheduler with visit := some { visit with running := none } } := by
      refine sound.visiting ?_ ?_
      · intro key dropping
        obtain ⟨offset, among, rfl⟩ := (mem_dropping rfl).mp dropping
        exact (mem_dropping visits).mpr ⟨offset, among, rfl⟩
      · intro after same
        cases same
        exact ⟨⟨inner.page, inner.notifiedInside, inner.droppedInside, by simp, inner.notifiedOnce,
          inner.droppedOnce, inner.apart, by simp⟩, shorter⟩
    cases ready with
    | true => exact ended.flagged (flag_same _ .markCompleted (fun _ _ => rfl) _) (length_onPage _)
    | false => exact ended

/-- The invariant holds in every state of a run. -/
theorem sound_run {past : List Transition} (run : Run default past scheduler) : scheduler.Sound :=
  state_invariant Sound .default (fun _ _ _ _ sound advanced => sound_step sound advanced) run
    (meets_true past)

end Scheduler

end Capybara
