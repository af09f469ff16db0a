import Capybara.Scheduler.StaleWakes

/-!
# Which tasks a call to poll runs

A call takes the notified and the dropped bits of each page when it comes to it. A task
that was marked as dropped before is left out and its slot is vacated; a task that has
returned `Ready` keeps its completed bit until its slot is vacated, and is left out too;
every other notified task is polled.

The first slot of a page is an exception: its dropped bit is taken but the slot is not
vacated, so the task stays and is polled again whenever it is woken. What follows is
about runs in which no handle of such a slot is dropped.
-/

namespace Capybara

open Runs

namespace Scheduler

/-- A handle that is dropped is not that of the first slot of a page. -/
def Spares : SchedulerAction → Prop
  | .drop key => key % 64 ≠ 0
  | _ => True

instance : (action : SchedulerAction) → Decidable (Spares action)
  | .drop key => inferInstanceAs (Decidable (key % 64 ≠ 0))
  | .insert | .wake _ | .take _ | .poll | .advance | .returned _ =>
    inferInstanceAs (Decidable True)

/-- An action that is careful with wakers and does not drop the handle of a first slot. -/
def Proper (scheduler : Scheduler) (action : SchedulerAction) : Prop :=
  scheduler.Careful action ∧ Spares action

instance (scheduler : Scheduler) (action : SchedulerAction) : Decidable (scheduler.Proper action) :=
  inferInstanceAs (Decidable (_ ∧ _))

/-- The handle of a task is held. -/
def Held (scheduler : Scheduler) (task : Nat) : Prop :=
  ∃ key ∈ scheduler.handles, scheduler.slab.get key = some task

/-- A task occupies a slot. -/
def Present (scheduler : Scheduler) (task : Nat) : Prop :=
  ∃ key, scheduler.slab.get key = some task

/-- The task that an action begins to poll. -/
def polls (scheduler : Scheduler) : SchedulerAction → Option Nat
  | .advance => scheduler.visit.bind fun visit =>
    if visit.running.isSome then none
    else visit.notified.head?.bind fun ix => scheduler.slab.get (visit.key ix)
  | _ => none

/-- The task that returns `Ready` in an action. -/
def finishes (scheduler : Scheduler) : SchedulerAction → Option Nat
  | .returned true => scheduler.running.bind scheduler.slab.get
  | _ => none

/-- The task whose handle is dropped in an action. -/
def drops (scheduler : Scheduler) : SchedulerAction → Option Nat
  | .drop key => if key ∈ scheduler.handles then scheduler.slab.get key else none
  | _ => none

/-- The tasks that were polled, most recent first. -/
def polledTasks (past : List Transition) : List Nat :=
  past.filterMap fun transition => transition.source.polls transition.action

/-- The tasks that have returned `Ready`. -/
def finishedTasks (past : List Transition) : List Nat :=
  past.filterMap fun transition => transition.source.finishes transition.action

/-- The tasks whose handle was dropped. -/
def droppedTasks (past : List Transition) : List Nat :=
  past.filterMap fun transition => transition.source.drops transition.action

variable {scheduler scheduler' start : Scheduler} {action : SchedulerAction}

/-! ## Slots and handles -/

/-- A slot that is occupied after a removal is another one and was occupied before. -/
theorem removed_get (sound : scheduler.Sound) {key other task : Nat}
    (found : (scheduler.slab.remove key).get other = some task) :
    other ≠ key ∧ scheduler.slab.get other = some task := by
  rw [(sound.slab.remove key).2] at found
  split at found
  · cases found
  · rename_i different
    exact ⟨different, found⟩

/-- A slot that is occupied after an action was occupied by the same task before, or its
task is new. -/
theorem slab_step (sound : scheduler.Sound) (outcome : Outcome scheduler action scheduler')
    {key task : Nat} (found : scheduler'.slab.get key = some task) :
    scheduler.slab.get key = some task ∨
      task = scheduler.inserted ∧ scheduler.slab.get key = none := by
  cases outcome with
  | idle | woken | dropped | entered | ended | polled | spared | returned => exact .inl found
  | inserted inserts =>
    obtain ⟨-, vacant, get⟩ := sound.insert inserts
    dsimp only at found
    rw [get] at found
    split at found
    · rename_i same
      cases found
      exact .inr ⟨rfl, same ▸ vacant⟩
    · exact .inl found
  | taken | removed =>
    dsimp only at found
    rw [(sound.slab.remove _).2] at found
    split at found
    · cases found
    · exact .inl found

/-- Tasks are numbered upwards. -/
theorem inserted_step (outcome : Outcome scheduler action scheduler') :
    scheduler.inserted ≤ scheduler'.inserted := by
  cases outcome with
  | inserted => exact Nat.le_succ _
  | idle | woken | dropped | taken | entered | ended | polled | removed | spared | returned =>
    exact Nat.le_refl _

/-- A handle that is held after an action was held before, or its slot was vacant. -/
theorem handles_step (sound : scheduler.Sound) (outcome : Outcome scheduler action scheduler')
    {key : Nat} (held : key ∈ scheduler'.handles) :
    key ∈ scheduler.handles ∨ scheduler.slab.get key = none := by
  cases outcome with
  | idle | woken | entered | ended | polled | removed | spared | returned => exact .inl held
  | inserted inserts =>
    obtain rfl | earlier := List.mem_cons.mp held
    · exact .inr (sound.insert inserts).2.1
    · exact .inl earlier
  | dropped | taken => exact .inl (List.mem_of_mem_erase held)

/-- What became of the tasks of an earlier state: they have not moved, and no handle has
come back. -/
structure Since (start scheduler : Scheduler) : Prop where
  inserted : start.inserted ≤ scheduler.inserted
  slab : ∀ key task, task < start.inserted → scheduler.slab.get key = some task →
    start.slab.get key = some task
  handles : ∀ key task, task < start.inserted → scheduler.slab.get key = some task →
    key ∈ scheduler.handles → key ∈ start.handles

/-- Nothing has happened since. -/
theorem Since.refl (scheduler : Scheduler) : Since scheduler scheduler :=
  ⟨Nat.le_refl _, fun _ _ _ => id, fun _ _ _ _ => id⟩

/-- What has happened since goes on with one more action. -/
theorem Since.step (since : Since start scheduler) (sound : scheduler.Sound)
    (outcome : Outcome scheduler action scheduler') : Since start scheduler' := by
  have before {key task : Nat} (old : task < start.inserted)
      (found : scheduler'.slab.get key = some task) : scheduler.slab.get key = some task := by
    obtain same | ⟨rfl, -⟩ := slab_step sound outcome found
    · exact same
    · exact absurd (Nat.lt_of_lt_of_le old since.inserted) (Nat.lt_irrefl _)
  refine ⟨Nat.le_trans since.inserted (inserted_step outcome), ?_, ?_⟩
  · intro key task old found
    exact since.slab key task old (before old found)
  · intro key task old found held
    obtain earlier | vacant := handles_step sound outcome held
    · exact since.handles key task old (before old found) earlier
    · rw [before old found] at vacant
      cases vacant

/-- A handle that is gone does not come back. -/
theorem Since.not_held (since : Since start scheduler) {task : Nat} (old : task < start.inserted)
    (gone : ¬ start.Held task) : ¬ scheduler.Held task := by
  rintro ⟨key, held, found⟩
  exact gone ⟨key, since.handles key task old found held, since.slab key task old found⟩

/-- Nor does it in a whole run. -/
theorem since_run (sound : start.Sound) {past : List Transition} (run : Run start past scheduler) :
    scheduler.Sound ∧ Since start scheduler := by
  refine state_invariant (fun scheduler => scheduler.Sound ∧ Since start scheduler)
    ⟨sound, .refl start⟩ ?_ run (meets_true past)
  rintro source action target - ⟨sound, since⟩ advanced
  exact ⟨sound_step sound advanced, since.step sound (step_outcome advanced)⟩

/-- The task whose handle is dropped has none afterwards. -/
theorem drops_not_held (sound : scheduler.Sound) (advanced : scheduler.step action = .ok scheduler')
    {task : Nat} (drops : scheduler.drops action = some task) :
    task < scheduler.inserted ∧ ¬ scheduler'.Held task := by
  cases action with
  | drop key =>
    simp only [Scheduler.drops] at drops
    split at drops
    · rename_i held
      simp only [step, drop, if_pos held] at advanced
      cases advanced
      refine ⟨sound.numbered key task drops, ?_⟩
      rintro ⟨other, held', found⟩
      obtain rfl : other = key := sound.distinct other key task found drops
      exact (sound.once.mem_erase_iff.mp held').1 rfl
    · cases drops
  | insert | wake | take | poll | advance | returned => cases drops

/-- The tasks whose handle was dropped have none in any later state. -/
theorem dropped_not_held {past : List Transition} (run : Run default past scheduler) :
    ∀ task ∈ droppedTasks past, task < scheduler.inserted ∧ ¬ scheduler.Held task := by
  refine run_invariant (fun past scheduler =>
    ∀ task ∈ droppedTasks past, task < scheduler.inserted ∧ ¬ scheduler.Held task) ?_ ?_ run
    (meets_true past)
  · intro task member
    cases member
  · intro past source action target earlier _ gone advanced task member
    have sound := sound_run earlier
    have since : Since source target := (Since.refl source).step sound (step_outcome advanced)
    obtain ⟨transition, among, drops⟩ := List.mem_filterMap.mp member
    obtain rfl | among := List.mem_cons.mp among
    · obtain ⟨old, unheld⟩ := drops_not_held sound advanced drops
      exact ⟨Nat.lt_of_lt_of_le old since.inserted, unheld⟩
    · obtain ⟨old, unheld⟩ := gone task (List.mem_filterMap.mpr ⟨transition, among, drops⟩)
      exact ⟨Nat.lt_of_lt_of_le old since.inserted, since.not_held old unheld⟩

/-! ## Tasks without a handle -/

/-- A task without a handle is marked as dropped or about to be removed, and the task that
runs is in its slot. -/
structure Orderly (scheduler : Scheduler) : Prop where
  marked : ∀ key, flag WakerPage.dropped scheduler.pages key = true → key % 64 ≠ 0
  removing : ∀ key ∈ scheduler.dropping, key % 64 ≠ 0
  abandoned : ∀ key, scheduler.slab.get key ≠ none → key ∉ scheduler.handles →
    flag WakerPage.dropped scheduler.pages key = true ∨ key ∈ scheduler.dropping
  running : ∀ key, scheduler.running = some key → scheduler.slab.get key ≠ none

/-- A new scheduler has nothing to drop and nothing to run. -/
theorem Orderly.default : Orderly default where
  marked := by intro key set; cases set
  removing := by intro key member; cases member
  abandoned := by intro key found; simp [Scheduler.default, PinSlab.new, PinSlab.get] at found
  running := by intro key runs; cases runs

/-- What a call finds marked in the page that it enters, it removes. -/
theorem mem_entered {page key : Nat} {current : WakerPage} {bitmap : WakerPage → BitVec 64}
    (found : scheduler.pages[page]? = some current) (here : key / 64 = page)
    (set : flag bitmap scheduler.pages key = true) :
    key % 64 ∈ bits (bitmap current) ∧ page * 64 + key % 64 = key := by
  rw [flag_of_found found here] at set
  exact ⟨mem_bits.mpr set, by omega⟩

/-- When a call comes to a page, nothing is left of the one before it. -/
theorem entered_nothing {page pages : Nat}
    (from_ : action = .poll ∧ scheduler.visit = none ∧ page = 0 ∧ pages = scheduler.pages.length ∨
      action = .advance ∧ ∃ visit, scheduler.visit = some visit ∧ visit.running = none ∧
        visit.notified = [] ∧ visit.dropped = [] ∧ page = visit.page + 1 ∧ pages = visit.pages) :
    scheduler.polling = [] ∧ scheduler.dropping = [] ∧ scheduler.running = none := by
  obtain ⟨-, idle, -, -⟩ | ⟨-, visit, visits, still, empty, empty', -, -⟩ := from_
  · simp [polling, dropping, running, idle]
  · simp [polling, dropping, running, visits, still, empty, empty']

/-- The page that a call enters is not the one that it has been visiting. -/
theorem entered_elsewhere {page pages : Nat}
    (from_ : action = .poll ∧ scheduler.visit = none ∧ page = 0 ∧ pages = scheduler.pages.length ∨
      action = .advance ∧ ∃ visit, scheduler.visit = some visit ∧ visit.running = none ∧
        visit.notified = [] ∧ visit.dropped = [] ∧ page = visit.page + 1 ∧ pages = visit.pages) :
    scheduler.visit.map Visit.page ≠ some page := by
  obtain ⟨-, idle, -, -⟩ | ⟨-, visit, visits, -, -, -, rfl, -⟩ := from_
  · simp [idle]
  · simp [visits]

/-- When a call ends, nothing is left of its last page. -/
theorem ended_nothing
    (from_ : action = .poll ∧ scheduler.visit = none ∧ scheduler.pages = [] ∨
      action = .advance ∧ ∃ visit, scheduler.visit = some visit ∧ visit.running = none ∧
        visit.notified = [] ∧ visit.dropped = [] ∧ visit.pages ≤ visit.page + 1) :
    scheduler.polling = [] ∧ scheduler.dropping = [] ∧ scheduler.running = none := by
  obtain ⟨-, idle, -⟩ | ⟨-, visit, visits, still, empty, empty', -⟩ := from_
  · simp [polling, dropping, running, idle]
  · simp [polling, dropping, running, visits, still, empty, empty']

/-- A slot that is marked as dropped was marked before, or its handle is dropped now. -/
theorem marked_step (sound : scheduler.Sound) (outcome : Outcome scheduler action scheduler')
    {key : Nat} (set : flag WakerPage.dropped scheduler'.pages key = true) :
    flag WakerPage.dropped scheduler.pages key = true ∨ action = .drop key := by
  cases outcome with
  | idle | ended | polled | spared => exact .inl set
  | inserted =>
    dsimp only at set
    rw [flag_clear (fun _ _ => rfl), flag_append rfl, Bool.and_eq_true] at set
    exact .inl set.2
  | woken => exact .inl ((flag_same _ .notify (fun _ _ => rfl) _ _).symm.trans set)
  | dropped held =>
    dsimp only at set
    rw [flag_set (fun _ _ => rfl) (sound.covered _ (sound.held _ held).1), Bool.or_eq_true,
      decide_eq_true_eq] at set
    obtain rfl | set := set
    · exact .inr rfl
    · exact .inl set
  | taken | removed =>
    dsimp only at set
    rw [flag_clear (fun _ _ => rfl), Bool.and_eq_true] at set
    exact .inl set.2
  | entered _ _ found =>
    dsimp only at set
    rw [flag_replace (List.getElem?_eq_some_iff.mp found).1] at set
    split at set
    · simp at set
    · exact .inl set
  | returned ready =>
    dsimp only at set
    split at set
    · exact .inl ((flag_same _ .markCompleted (fun _ _ => rfl) _ _).symm.trans set)
    · exact .inl set

/-- A slot that a call has noted for removal was noted before, or was marked. -/
theorem dropping_step (outcome : Outcome scheduler action scheduler') {key : Nat}
    (member : key ∈ scheduler'.dropping) :
    key ∈ scheduler.dropping ∨ flag WakerPage.dropped scheduler.pages key = true := by
  cases outcome with
  | idle | inserted | woken | dropped | taken => exact .inl member
  | entered _ _ found =>
    obtain ⟨ix, among, rfl⟩ := (mem_dropping rfl).mp member
    have bit := mem_bits.mp among
    right
    unfold Visit.key
    rw [flag_at found (BitVec.lt_of_getLsbD bit)]
    exact bit
  | ended => cases member
  | polled visits | returned _ visits =>
    left
    rw [mem_dropping rfl] at member
    rw [mem_dropping visits]
    exact member
  | removed visits _ _ next | spared visits _ _ next =>
    obtain ⟨offset, among, rfl⟩ := (mem_dropping rfl).mp member
    refine .inl ((mem_dropping visits).mpr ⟨offset, ?_, rfl⟩)
    rw [next]
    exact List.mem_cons_of_mem _ among

/-- What was marked stays marked until the call comes to its page and notes it. -/
theorem marked_kept (sound : scheduler.Sound) (outcome : Outcome scheduler action scheduler')
    {key : Nat} (occupied : scheduler.slab.get key ≠ none) (still : scheduler'.slab.get key ≠ none)
    (set : flag WakerPage.dropped scheduler.pages key = true) :
    flag WakerPage.dropped scheduler'.pages key = true ∨ key ∈ scheduler'.dropping := by
  obtain ⟨task, found'⟩ := Option.ne_none_iff_exists'.mp still
  cases outcome with
  | idle | ended | polled | spared => exact .inl set
  | inserted inserts =>
    have different : key ≠ _ := fun same => occupied (same ▸ (sound.insert inserts).2.1)
    left
    dsimp only
    rw [flag_clear (fun _ _ => rfl), flag_append rfl, set, decide_eq_true different]
    rfl
  | woken => exact .inl ((flag_same _ .notify (fun _ _ => rfl) _ _).trans set)
  | dropped => exact .inl (flag_still_set (fun _ _ => rfl) _ set)
  | taken | removed =>
    left
    dsimp only
    rw [flag_clear (fun _ _ => rfl), set, decide_eq_true (removed_get sound found').1]
    rfl
  | @entered action page pages current from_ inside found =>
    by_cases here : key / 64 = page
    · obtain ⟨member, same⟩ := mem_entered found here set
      exact .inr ((mem_dropping rfl).mpr ⟨key % 64, member, same⟩)
    · left
      dsimp only
      rw [flag_replace (List.getElem?_eq_some_iff.mp found).1, if_neg here]
      exact set
  | returned ready =>
    left
    dsimp only
    split
    · exact (flag_same _ .markCompleted (fun _ _ => rfl) _ _).trans set
    · exact set

/-- What is noted for removal stays noted until its slot is vacated. -/
theorem dropping_kept (sound : scheduler.Sound) (orderly : scheduler.Orderly)
    (outcome : Outcome scheduler action scheduler') {key : Nat}
    (still : scheduler'.slab.get key ≠ none) (member : key ∈ scheduler.dropping) :
    key ∈ scheduler'.dropping := by
  cases outcome with
  | idle | inserted | woken | dropped | taken => exact member
  | entered from_ =>
    rw [(entered_nothing from_).2.1] at member
    cases member
  | ended from_ =>
    rw [(ended_nothing from_).2.1] at member
    cases member
  | polled visits | returned _ visits =>
    rw [mem_dropping visits] at member
    rw [mem_dropping rfl]
    exact member
  | @removed visit ix dropped visits _ _ next =>
    obtain ⟨task, found⟩ := Option.ne_none_iff_exists'.mp still
    obtain ⟨offset, among, rfl⟩ := (mem_dropping visits).mp member
    rw [next] at among
    obtain rfl | among := List.mem_cons.mp among
    · exact absurd rfl (removed_get sound found).1
    · exact (@mem_dropping _ { visit with dropped } rfl _).mpr ⟨offset, among, rfl⟩
  | @spared visit dropped visits _ _ next =>
    have first : visit.key 0 ∈ scheduler.dropping := by
      refine (mem_dropping visits).mpr ⟨0, ?_, rfl⟩
      rw [next]
      exact List.mem_cons_self
    exact absurd (by simp [Visit.key]) (orderly.removing _ first)

/-- A handle that goes while its slot stays occupied is dropped, which marks the slot. -/
theorem handle_gone (sound : scheduler.Sound) (outcome : Outcome scheduler action scheduler')
    {key : Nat} (held : key ∈ scheduler.handles) (still : scheduler'.slab.get key ≠ none)
    (unheld : key ∉ scheduler'.handles) :
    flag WakerPage.dropped scheduler'.pages key = true := by
  cases outcome with
  | idle | woken | entered | ended | polled | removed | spared | returned =>
    exact absurd held unheld
  | inserted => exact absurd (List.mem_cons_of_mem _ held) unheld
  | @dropped other held' =>
    by_cases same : key = other
    · dsimp only
      rw [flag_set (fun _ _ => rfl) (sound.covered _ (sound.held _ held').1),
        decide_eq_true same, Bool.true_or]
    · exact absurd ((List.mem_erase_of_ne same).mpr held) unheld
  | @taken other held' =>
    obtain ⟨task, found⟩ := Option.ne_none_iff_exists'.mp still
    exact absurd ((List.mem_erase_of_ne (removed_get sound found).1).mpr held) unheld

/-- A slot that is occupied without a handle was occupied before. -/
theorem occupied_before (sound : scheduler.Sound) (outcome : Outcome scheduler action scheduler')
    {key : Nat} (still : scheduler'.slab.get key ≠ none) (unheld : key ∉ scheduler'.handles) :
    scheduler.slab.get key ≠ none := by
  cases outcome with
  | idle | woken | dropped | entered | ended | polled | spared | returned => exact still
  | inserted inserts =>
    have different : key ≠ _ := fun same => unheld (same ▸ List.mem_cons_self)
    dsimp only at still
    rwa [(sound.insert inserts).2.2, if_neg different] at still
  | taken | removed =>
    obtain ⟨task, found⟩ := Option.ne_none_iff_exists'.mp still
    rw [(removed_get sound found).2]
    exact Option.some_ne_none _

/-- The task that runs keeps its slot: it is not taken, and nothing is removed meanwhile. -/
theorem running_occupied (sound : scheduler.Sound) (orderly : scheduler.Orderly)
    (careful : scheduler.Careful action) (outcome : Outcome scheduler action scheduler')
    {key : Nat} (runs : scheduler'.running = some key) : scheduler'.slab.get key ≠ none := by
  cases outcome with
  | idle | woken | dropped => exact orderly.running key runs
  | inserted inserts =>
    dsimp only
    rw [(sound.insert inserts).2.2]
    split
    · exact Option.some_ne_none _
    · exact orderly.running key runs
  | @taken other =>
    have different : key ≠ other := by
      rintro rfl
      exact careful.2 runs
    dsimp only
    rw [(sound.slab.remove other).2, if_neg different]
    exact orderly.running key runs
  | entered | ended | returned => cases runs
  | polled visits still next occupied =>
    cases runs
    dsimp only [Visit.key] at occupied ⊢
    rw [occupied]
    exact Option.some_ne_none _
  | removed _ still | spared _ still => simp [running, still] at runs

/-- An action that spares the first slots keeps the tasks without a handle marked. -/
theorem orderly_step (sound : scheduler.Sound) (orderly : scheduler.Orderly)
    (proper : scheduler.Proper action) (outcome : Outcome scheduler action scheduler') :
    scheduler'.Orderly where
  marked key set := by
    obtain earlier | rfl := marked_step sound outcome set
    · exact orderly.marked key earlier
    · exact proper.2
  removing key member :=
    (dropping_step outcome member).elim (orderly.removing key) (orderly.marked key)
  abandoned key still unheld := by
    by_cases held : key ∈ scheduler.handles
    · exact .inl (handle_gone sound outcome held still unheld)
    have occupied := occupied_before sound outcome still unheld
    obtain set | member := orderly.abandoned key occupied held
    · exact marked_kept sound outcome occupied still set
    · exact .inr (dropping_kept sound orderly outcome still member)
  running _ runs := running_occupied sound orderly proper.1 outcome runs

/-! ## Tasks that have returned Ready -/

/-- A task that is polled is one that the call had noted. -/
theorem polls_some {task : Nat} (polls : scheduler.polls action = some task) :
    ∃ key ∈ scheduler.polling, scheduler.slab.get key = some task := by
  cases action with
  | advance =>
    cases visits : scheduler.visit with
    | none => simp [Scheduler.polls, visits] at polls
    | some visit =>
      simp only [Scheduler.polls, visits, Option.bind_some] at polls
      split at polls
      · cases polls
      · cases next : visit.notified with
        | nil => simp [next] at polls
        | cons ix notified =>
          simp only [next, List.head?_cons, Option.bind_some] at polls
          refine ⟨visit.key ix, (mem_polling visits).mpr ⟨ix, ?_, rfl⟩, polls⟩
          rw [next]
          exact List.mem_cons_self
  | insert | wake | drop | take | poll | returned => cases polls

/-- What a call has noted for polling after an action was noted before, unless the call
comes to its page. -/
theorem polling_step (outcome : Outcome scheduler action scheduler') {key : Nat}
    (member : key ∈ scheduler'.polling) :
    key ∈ scheduler.polling ∨ scheduler.dropping = [] ∧ scheduler.running = none ∧
      scheduler'.slab = scheduler.slab ∧ scheduler'.handles = scheduler.handles ∧
      flag WakerPage.dropped scheduler.pages key = false ∧
      flag WakerPage.completed scheduler.pages key = false := by
  cases outcome with
  | idle | inserted | woken | dropped | taken => exact .inl member
  | entered from_ _ found =>
    obtain ⟨-, none, still⟩ := entered_nothing from_
    obtain ⟨ix, among, rfl⟩ := (mem_polling rfl).mp member
    have bit := mem_bits.mp among
    have small := BitVec.lt_of_getLsbD bit
    rw [BitVec.getLsbD_and, BitVec.getLsbD_and, Bool.and_eq_true, Bool.and_eq_true,
      BitVec.getLsbD_not, BitVec.getLsbD_not, Bool.and_eq_true, Bool.and_eq_true] at bit
    refine .inr ⟨none, still, rfl, rfl, ?_, ?_⟩
    · dsimp only [Visit.key]
      rw [flag_at found small]
      simpa using bit.2.2
    · dsimp only [Visit.key]
      rw [flag_at found small]
      simpa using bit.1.2.2
  | ended => cases member
  | polled visits _ next =>
    left
    obtain ⟨offset, among, rfl⟩ := (mem_polling rfl).mp member
    refine (mem_polling visits).mpr ⟨offset, ?_, rfl⟩
    rw [next]
    exact List.mem_cons_of_mem _ among
  | removed visits | spared visits | returned _ visits =>
    left
    rw [mem_polling rfl] at member
    rw [mem_polling visits]
    exact member

/-- The task that runs has run before, or was the next to be polled. -/
theorem running_step (outcome : Outcome scheduler action scheduler') {key : Nat}
    (runs : scheduler'.running = some key) :
    scheduler.running = some key ∨ key ∈ scheduler.polling := by
  cases outcome with
  | idle | inserted | woken | dropped | taken => exact .inl runs
  | entered | ended | returned => cases runs
  | polled visits _ next =>
    cases runs
    refine .inr ((mem_polling visits).mpr ⟨_, ?_, rfl⟩)
    rw [next]
    exact List.mem_cons_self
  | removed _ still | spared _ still => simp [running, still] at runs

/-- The task that runs is not noted for polling. -/
theorem running_unnoted (sound : scheduler.Sound) {key : Nat} (member : key ∈ scheduler.polling) :
    scheduler.running ≠ some key := by
  intro runs
  obtain ⟨visit, visits, runs⟩ := Option.bind_eq_some_iff.mp runs
  obtain ⟨ix, running, rfl⟩ := Option.map_eq_some_iff.mp runs
  obtain ⟨offset, among, same⟩ := (mem_polling visits).mp member
  obtain rfl := Visit.key_inj.mp same
  exact ((sound.visits visit visits).1.runningApart _ running).1 among

/-- A task completes by returning only. -/
theorem uncompleted_step (sound : scheduler.Sound) {key : Nat}
    (outcome : Outcome scheduler action scheduler')
    (goesOn : scheduler.running = some key → scheduler'.running = some key)
    (unset : flag WakerPage.completed scheduler.pages key = false) :
    flag WakerPage.completed scheduler'.pages key = false := by
  cases outcome with
  | idle | ended | polled | spared => exact unset
  | inserted inserts =>
    dsimp only
    rw [flag_clear (fun _ _ => rfl), flag_append rfl, unset, Bool.and_false]
  | woken => exact (flag_same _ .notify (fun _ _ => rfl) _ _).trans unset
  | dropped => exact (flag_same _ .markDropped (fun _ _ => rfl) _ _).trans unset
  | taken | removed =>
    dsimp only
    rw [flag_clear (fun _ _ => rfl), unset, Bool.and_false]
  | entered _ _ found =>
    dsimp only
    rw [flag_replace (List.getElem?_eq_some_iff.mp found).1]
    split
    · rename_i here
      exact (flag_of_found found here).symm.trans unset
    · exact unset
  | @returned visit ix ready visits running =>
    obtain ⟨inner, shorter⟩ := sound.visits visit visits
    have covered : visit.key ix / 64 < scheduler.pages.length := by
      rw [Visit.key_div (inner.runningInside ix running)]
      exact Nat.lt_of_lt_of_le inner.page shorter
    have different : key ≠ visit.key ix := by
      rintro rfl
      cases goesOn (by simp [Scheduler.running, visits, running])
    dsimp only
    split
    · rw [flag_set (fun _ _ => rfl) covered, unset, decide_eq_false different]
      rfl
    · exact unset

/-- A task that finishes is in its slot. -/
theorem finishes_present {task : Nat} (finishes : scheduler.finishes action = some task) :
    scheduler.Present task := by
  unfold Scheduler.finishes at finishes
  split at finishes
  · obtain ⟨key, -, found⟩ := Option.bind_eq_some_iff.mp finishes
    exact ⟨key, found⟩
  · cases finishes

/-- The completed bit of a slot after an action: that of its task before, set when the task
returns `Ready`. -/
theorem completed_step (sound : scheduler.Sound) (outcome : Outcome scheduler action scheduler')
    {key task : Nat} (found : scheduler'.slab.get key = some task) :
    flag WakerPage.completed scheduler'.pages key = true ↔
      scheduler.finishes action = some task ∨
        flag WakerPage.completed scheduler.pages key = true ∧
          scheduler.slab.get key = some task := by
  cases outcome with
  | idle _ returns =>
    have none : scheduler.finishes action = none := by
      unfold Scheduler.finishes
      split
      · rw [returns true rfl]
        rfl
      · rfl
    simp [none, found]
  | inserted inserts =>
    obtain ⟨-, vacant, get⟩ := sound.insert inserts
    dsimp only at found ⊢
    rw [get] at found
    rw [flag_clear (fun _ _ => rfl), flag_append rfl]
    split at found
    · rename_i same
      subst same
      simp [Scheduler.finishes, vacant]
    · rename_i different
      simp [Scheduler.finishes, different, found]
  | woken =>
    dsimp only at found ⊢
    rw [flag_same _ .notify (fun _ _ => rfl)]
    simp [Scheduler.finishes, found]
  | dropped =>
    dsimp only at found ⊢
    rw [flag_same _ .markDropped (fun _ _ => rfl)]
    simp [Scheduler.finishes, found]
  | taken | removed =>
    obtain ⟨different, there⟩ := removed_get sound found
    dsimp only
    rw [flag_clear (fun _ _ => rfl)]
    simp [Scheduler.finishes, different, there]
  | entered from_ _ inside =>
    have none : scheduler.finishes action = none := by
      obtain ⟨rfl, -⟩ | ⟨rfl, -⟩ := from_ <;> rfl
    dsimp only at found ⊢
    rw [flag_replace (List.getElem?_eq_some_iff.mp inside).1]
    split
    · rename_i here
      simp [none, found, flag_of_found inside here]
    · simp [none, found]
  | ended from_ =>
    have none : scheduler.finishes action = none := by
      obtain ⟨rfl, -⟩ | ⟨rfl, -⟩ := from_ <;> rfl
    simp [none, (found : scheduler.slab.get key = some task)]
  | polled | spared => simp [Scheduler.finishes, (found : scheduler.slab.get key = some task)]
  | @returned visit ix ready visits runs =>
    dsimp only at found ⊢
    cases ready with
    | false => simp [Scheduler.finishes, found]
    | true =>
      obtain ⟨inner, shorter⟩ := sound.visits visit visits
      have covered : visit.key ix / 64 < scheduler.pages.length := by
        rw [Visit.key_div (inner.runningInside ix runs)]
        exact Nat.lt_of_lt_of_le inner.page shorter
      have finishes : scheduler.finishes (.returned true) = scheduler.slab.get (visit.key ix) := by
        simp [Scheduler.finishes, running, visits, runs]
      rw [if_pos rfl, flag_set (fun _ _ => rfl) covered, finishes, Bool.or_eq_true,
        decide_eq_true_eq, and_iff_left found]
      refine or_congr_left ⟨?_, ?_⟩
      · rintro rfl
        exact found
      · exact fun there => sound.distinct key _ task found there

/-- The completed bits are those of the tasks that have returned `Ready`, and neither the
task that runs nor those still to be polled are among them. -/
structure Recorded (past : List Transition) (scheduler : Scheduler) : Prop where
  completed : ∀ key task, scheduler.slab.get key = some task →
    (flag WakerPage.completed scheduler.pages key = true ↔ task ∈ finishedTasks past)
  numbered : ∀ task ∈ finishedTasks past, task < scheduler.inserted
  polling : ∀ key ∈ scheduler.polling, flag WakerPage.completed scheduler.pages key = false
  running : ∀ key, scheduler.running = some key →
    flag WakerPage.completed scheduler.pages key = false

/-- A new scheduler has polled nobody. -/
theorem Recorded.default : Recorded [] default where
  completed := by intro key task found; simp [Scheduler.default, PinSlab.new, PinSlab.get] at found
  numbered := by intro task member; cases member
  polling := by intro key member; cases member
  running := by intro key runs; cases runs

/-- The tasks that have returned `Ready` after an action. -/
theorem mem_finishedTasks {past : List Transition} {task : Nat} :
    task ∈ finishedTasks (⟨scheduler, action, scheduler'⟩ :: past) ↔
      scheduler.finishes action = some task ∨ task ∈ finishedTasks past := by
  simp only [finishedTasks, List.filterMap_cons]
  cases scheduler.finishes action with
  | none => simp
  | some finished => simp [eq_comm]

/-- The record after an action. -/
theorem recorded_step {past : List Transition} (sound : scheduler.Sound)
    (recorded : Recorded past scheduler) (outcome : Outcome scheduler action scheduler') :
    Recorded (⟨scheduler, action, scheduler'⟩ :: past) scheduler' where
  completed key task found := by
    rw [completed_step sound outcome found, mem_finishedTasks]
    refine or_congr_right ?_
    obtain there | ⟨rfl, vacant⟩ := slab_step sound outcome found
    · rw [and_iff_left there]
      exact recorded.completed key task there
    · refine iff_of_false (fun both => ?_) fun member => ?_
      · rw [vacant] at both
        cases both.2
      · exact Nat.lt_irrefl _ (recorded.numbered _ member)
  numbered task member := by
    refine Nat.lt_of_lt_of_le ?_ (inserted_step outcome)
    obtain finishes | earlier := mem_finishedTasks.mp member
    · obtain ⟨key, found⟩ := finishes_present finishes
      exact sound.numbered key task found
    · exact recorded.numbered task earlier
  polling key member := by
    obtain noted | ⟨-, still, -, -, -, unset⟩ := polling_step outcome member
    · exact uncompleted_step sound outcome (fun runs => absurd runs (running_unnoted sound noted))
        (recorded.polling key noted)
    · refine uncompleted_step sound outcome (fun runs => ?_) unset
      rw [still] at runs
      cases runs
  running key runs :=
    uncompleted_step sound outcome (fun _ => runs)
      ((running_step outcome runs).elim (recorded.running key) (recorded.polling key))

end Scheduler

end Capybara
