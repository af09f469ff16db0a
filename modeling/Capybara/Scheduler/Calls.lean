import Capybara.Scheduler.Polls

/-!
# Whole calls to poll

A call visits the pages one after the other. What was marked in a page when the call
began stays marked until the call comes to that page, and is then noted, so a call that
has ended has polled every task that was due and vacated the slot of every task whose
handle was gone.
-/

namespace Capybara

open Runs

namespace Scheduler

variable {scheduler scheduler' start stop : Scheduler} {action : SchedulerAction}

/-! ## Tasks without a handle are not polled -/

/-- The tasks of an earlier state that the call has noted had a handle there. -/
def Kept (start scheduler : Scheduler) : Prop :=
  ∀ key ∈ scheduler.polling, ∀ task < start.inserted,
    scheduler.slab.get key = some task → start.Held task

/-- A call notes no task of an earlier state whose handle was gone there. -/
theorem kept_step (sound : scheduler.Sound) (orderly : scheduler.Orderly)
    (since : Since start scheduler) (kept : Kept start scheduler)
    (outcome : Outcome scheduler action scheduler') : Kept start scheduler' := by
  intro key member task old found
  obtain noted | ⟨none, -, slab, handles, unmarked, -⟩ := polling_step outcome member
  · obtain same | ⟨rfl, -⟩ := slab_step sound outcome found
    · exact kept key noted task old same
    · exact absurd (Nat.lt_of_lt_of_le old since.inserted) (Nat.lt_irrefl _)
  · rw [slab] at found
    by_contra gone
    have unheld : key ∉ scheduler.handles := fun held =>
      since.not_held old gone ⟨key, held, found⟩
    have occupied : scheduler.slab.get key ≠ .none := by
      rw [found]
      exact Option.some_ne_none _
    obtain set | member := orderly.abandoned key occupied unheld
    · rw [unmarked] at set
      cases set
    · rw [none] at member
      cases member

/-- The invariants of proper runs. -/
theorem orderly_run {past : List Transition} (run : Run default past scheduler)
    (proper : Meets Proper past) : scheduler.Orderly := by
  refine run_invariant (fun _ scheduler => Orderly scheduler) .default ?_ run proper
  intro past source action target earlier here orderly advanced
  exact orderly_step (sound_run earlier) orderly here (step_outcome advanced)

/-- A task without a handle is not polled any more once a call to `poll` has ended. -/
theorem abandoned_unpolled (sound : start.Sound) (orderly : start.Orderly)
    (idle : start.visit = none) {later : List Transition} (run : Run start later stop)
    (proper : Meets Proper later) :
    ∀ task < start.inserted, ¬ start.Held task → task ∉ polledTasks later := by
  have invariant : (stop.Orderly ∧ Kept start stop) ∧
      ∀ task < start.inserted, ¬ start.Held task → task ∉ polledTasks later := by
    refine run_invariant (fun later scheduler => (scheduler.Orderly ∧ Kept start scheduler) ∧
      ∀ task < start.inserted, ¬ start.Held task → task ∉ polledTasks later) ?_ ?_ run proper
    · refine ⟨⟨orderly, ?_⟩, ?_⟩
      · intro key member
        simp [polling, idle] at member
      · intro task old gone member
        cases member
    · rintro later source action target earlier here ⟨⟨orderly, kept⟩, unpolled⟩ advanced
      obtain ⟨sound, since⟩ := since_run sound earlier
      have outcome := step_outcome advanced
      refine ⟨⟨orderly_step sound orderly here outcome, kept_step sound orderly since kept outcome⟩,
        ?_⟩
      intro task old gone member
      obtain ⟨transition, among, polls⟩ := List.mem_filterMap.mp member
      obtain rfl | among := List.mem_cons.mp among
      · obtain ⟨key, noted, found⟩ := polls_some polls
        exact gone (kept key noted task old found)
      · exact unpolled task old gone (List.mem_filterMap.mpr ⟨transition, among, polls⟩)
  exact invariant.2

/-! ## Tasks that have returned Ready are not polled -/

/-- A task that is polled has not returned `Ready` before. -/
def Unfinished (past : List Transition) (scheduler : Scheduler) (action : SchedulerAction) : Prop :=
  ∀ task, scheduler.polls action = some task → task ∉ finishedTasks past

/-- The record holds along every run, and no task is polled after it returned `Ready`. -/
theorem recorded_run {past : List Transition} (run : Run default past scheduler) :
    Recorded past scheduler ∧ Follows Unfinished past := by
  refine run_invariant (fun past scheduler => Recorded past scheduler ∧ Follows Unfinished past)
    ⟨.default, trivial⟩ ?_ run (meets_true past)
  rintro past source action target earlier - ⟨recorded, follows⟩ advanced
  refine ⟨recorded_step (sound_run earlier) recorded (step_outcome advanced), ?_, follows⟩
  intro task polls finished
  obtain ⟨key, noted, found⟩ := polls_some polls
  have completed := (recorded.completed key task found).mpr finished
  rw [recorded.polling key noted] at completed
  cases completed

/-! ## One call -/

/-- A call to `poll` as far as it has come: what happened since it began. -/
inductive Call (start : Scheduler) : List Transition → Scheduler → Prop where
  | begins {begun : Scheduler} (idle : start.visit = none)
      (entered : start.step .poll = .ok begun) : Call start [⟨start, .poll, begun⟩] begun
  | goesOn {during : List Transition} {source target : Scheduler} (action : SchedulerAction)
      (earlier : Call start during source) (inside : source.visit ≠ none)
      (advanced : source.step action = .ok target) :
      Call start (⟨source, action, target⟩ :: during) target

/-- A call is a run. -/
theorem Call.run {during : List Transition} (call : Call start during stop) :
    Run start during stop := by
  induction call with
  | begins idle entered => exact .step SchedulerAction.poll .nil entered
  | goesOn action earlier inside advanced inductionHypothesis =>
    exact .step action inductionHypothesis advanced

/-- No page is visited when a call begins. -/
theorem Call.idle {during : List Transition} (call : Call start during stop) :
    start.visit = none := by
  induction call with
  | begins idle entered => exact idle
  | goesOn action earlier inside advanced inductionHypothesis => exact inductionHypothesis

/-- When a call ends, it has handled its last page. -/
theorem ended_step (outcome : Outcome scheduler action scheduler') {visit : Visit}
    (visits : scheduler.visit = some visit) (finished : scheduler'.visit = none) :
    scheduler' = { scheduler with visit := none } ∧ visit.notified = [] ∧ visit.dropped = [] ∧
      visit.pages ≤ visit.page + 1 := by
  cases outcome with
  | idle | inserted | woken | dropped | taken =>
    cases visits.symm.trans finished
  | entered | polled | removed | spared | returned => cases finished
  | ended from_ =>
    obtain ⟨-, idle, -⟩ | ⟨-, other, same, -, none, empty, last⟩ := from_
    · rw [visits] at idle
      cases idle
    · obtain rfl : visit = other := Option.some.inj (visits.symm.trans same)
      exact ⟨rfl, none, empty, last⟩

/-- The number of pages that a call visits is fixed when it begins. -/
theorem Call.pages {during : List Transition} (call : Call start during stop) :
    ∀ visit, stop.visit = some visit → visit.pages = start.pages.length := by
  induction call with
  | begins idle entered =>
    intro visit visits
    cases step_outcome entered with
    | idle begins => exact absurd idle (begins rfl)
    | ended => cases visits
    | entered from_ =>
      cases visits
      obtain ⟨-, -, -, same⟩ | ⟨wrong, -⟩ := from_
      · exact same
      · cases wrong
  | @goesOn during source target action earlier inside advanced inductionHypothesis =>
    intro visit visits
    cases step_outcome advanced with
    | idle | inserted | woken | dropped | taken => exact inductionHypothesis visit visits
    | ended => cases visits
    | entered from_ =>
      cases visits
      obtain ⟨-, idle, -⟩ | ⟨-, visit, visits, -, -, -, -, rfl⟩ := from_
      · exact absurd idle inside
      · exact inductionHypothesis visit visits
    | polled visited | removed visited | spared visited | returned ready visited =>
      cases visits
      have same := inductionHypothesis _ visited
      exact same

/-! ### The slots that a call vacates -/

/-- A call has still to come to the page of a slot, or has noted it for removal. -/
def Leaves (scheduler : Scheduler) (key : Nat) : Prop :=
  ∀ visit, scheduler.visit = some visit → visit.page < key / 64 ∨ key ∈ scheduler.dropping

/-- While a slot without a handle is occupied, the call has still to vacate it. -/
theorem leaves_step (sound : scheduler.Sound) (orderly : scheduler.Orderly) {key : Nat}
    (outcome : Outcome scheduler action scheduler') (unheld : key ∉ scheduler.handles)
    (occupied : scheduler.slab.get key ≠ none) (still : scheduler'.slab.get key ≠ none)
    (leaves : scheduler.Leaves key) : scheduler'.Leaves key := by
  cases outcome with
  | idle | inserted | woken | dropped | taken => exact leaves
  | @entered action page pages current from_ inside found =>
    intro visit visits
    cases visits
    have none := (entered_nothing from_).2.1
    by_cases here : key / 64 = page
    · right
      obtain set | member := orderly.abandoned key occupied unheld
      · obtain ⟨member, same⟩ := mem_entered found here set
        exact (mem_dropping rfl).mpr ⟨key % 64, member, same⟩
      · rw [none] at member
        cases member
    · left
      dsimp only
      obtain ⟨-, -, rfl, -⟩ | ⟨-, visit, visits, -, -, -, rfl, -⟩ := from_
      · exact Nat.pos_of_ne_zero here
      · obtain earlier | member := leaves visit visits
        · exact Nat.lt_of_le_of_ne earlier (Ne.symm here)
        · rw [none] at member
          cases member
  | ended =>
    intro visit visits
    cases visits
  | @polled visit ix task notified visits | @returned visit ix ready visits =>
    intro after same
    cases same
    refine (leaves visit visits).imp_right fun member => ?_
    rw [mem_dropping visits] at member
    rw [mem_dropping rfl]
    exact member
  | @removed visit ix dropped visits running polled next later =>
    intro after same
    cases same
    refine (leaves visit visits).imp_right fun member => ?_
    obtain ⟨offset, among, rfl⟩ := (mem_dropping visits).mp member
    rw [next] at among
    obtain rfl | among := List.mem_cons.mp among
    · dsimp only at still
      rw [(sound.slab.remove _).2, if_pos rfl] at still
      exact absurd rfl still
    · exact (@mem_dropping _ { visit with dropped } rfl _).mpr ⟨offset, among, rfl⟩
  | @spared visit dropped visits running polled next =>
    have first : visit.key 0 ∈ scheduler.dropping := by
      refine (mem_dropping visits).mpr ⟨0, ?_, rfl⟩
      rw [next]
      exact List.mem_cons_self
    exact absurd (by simp [Visit.key]) (orderly.removing _ first)

/-! ### Notified slots -/

/-- The call comes to a page. -/
def ComesTo (scheduler scheduler' : Scheduler) (page : Nat) : Prop :=
  scheduler'.visit.map Visit.page = some page ∧ scheduler.visit.map Visit.page ≠ some page

/-- While a slot keeps its task, its notification stays until the call comes to its page.
Other actions touch the flag by setting it, or for a slot that loses its task. -/
theorem notified_step (sound : scheduler.Sound) {key task : Nat}
    (outcome : Outcome scheduler action scheduler') (still : scheduler'.slab.get key = some task)
    (elsewhere : ¬ ComesTo scheduler scheduler' (key / 64))
    (set : flag WakerPage.notified scheduler.pages key = true) :
    flag WakerPage.notified scheduler'.pages key = true := by
  cases outcome with
  | idle | ended | polled | spared => exact set
  | inserted inserts =>
    dsimp only
    rw [flag_set (fun _ _ => rfl) (length_grown _ scheduler.pages).1, flag_append rfl, set,
      Bool.or_true]
  | woken other => exact flag_still_set (fun _ _ => rfl) other set
  | dropped => exact (flag_same _ .markDropped (fun _ _ => rfl) _ _).trans set
  | taken | removed =>
    dsimp only
    rw [flag_clear (fun _ _ => rfl), set, decide_eq_true (removed_get sound still).1]
    rfl
  | entered from_ inside found =>
    have different : key / 64 ≠ _ := fun here =>
      elsewhere ⟨congrArg some here.symm, here ▸ entered_elsewhere from_⟩
    dsimp only
    rw [flag_replace (List.getElem?_eq_some_iff.mp found).1, if_neg different]
    exact set
  | returned ready visits running =>
    dsimp only
    split
    · exact (flag_same _ .markCompleted (fun _ _ => rfl) _ _).trans set
    · exact set

/-- The key of the task that an action notifies: that of a waker, or of a new task. -/
def notifies (scheduler : Scheduler) : SchedulerAction → Option Nat
  | .insert => (scheduler.slab.insert scheduler.inserted).map Prod.fst
  | .wake key => some key
  | _ => none

/-- A wake and an insertion set the flag of the task. -/
theorem notified_of_notifies (sound : scheduler'.Sound)
    (advanced : scheduler.step action = .ok scheduler') {key task : Nat}
    (notifies : scheduler.notifies action = some key)
    (found : scheduler'.slab.get key = some task) :
    flag WakerPage.notified scheduler'.pages key = true := by
  have covered := sound.covered key (by rw [found]; exact Option.some_ne_none _)
  cases action with
  | insert =>
    unfold step insert at advanced
    dsimp only at advanced
    split at advanced
    · cases advanced
    · rename_i slot slab inserts
      cases advanced
      simp only [Scheduler.notifies, inserts, Option.map_some, Option.some.injEq] at notifies
      subst notifies
      dsimp only
      rw [flag_set (fun _ _ => rfl) (length_grown _ scheduler.pages).1, decide_eq_true rfl,
        Bool.true_or]
  | wake slot =>
    cases advanced
    cases notifies
    simp only [wake, length_onPage] at covered ⊢
    rw [flag_set (fun _ _ => rfl) covered, decide_eq_true rfl, Bool.true_or]
  | drop | take | poll | advance | returned => cases notifies

/-- A task that has been woken, or is new, stays notified until a call comes to its page. -/
theorem notified_until_visited {past later : List Transition} {source target : Scheduler}
    (before : Run default past source) (advanced : source.step action = .ok target)
    {key task : Nat} (notifies : source.notifies action = some key)
    (found : target.slab.get key = some task) (after : Run target later stop)
    (still : stop.slab.get key = some task)
    (unvisited : ∀ transition ∈ later,
      ¬ ComesTo transition.source transition.target (key / 64)) :
    flag WakerPage.notified stop.pages key = true := by
  have sound : target.Sound := sound_run (.step action before advanced)
  have old : task < target.inserted := sound.numbered key task found
  induction after with
  | nil => exact notified_of_notifies sound advanced notifies found
  | @step past middle last action earlier advanced inductionHypothesis =>
    obtain ⟨sound', since⟩ := since_run sound earlier
    obtain there | ⟨rfl, -⟩ := slab_step sound' (step_outcome advanced) still
    · refine notified_step sound' (step_outcome advanced) still
        (unvisited _ List.mem_cons_self) (inductionHypothesis there ?_)
      exact fun transition member => unvisited transition (List.mem_cons_of_mem _ member)
    · exact absurd (Nat.lt_of_lt_of_le old since.inserted) (Nat.lt_irrefl _)

/-! ### The tasks that a call polls -/

/-- A call has still to come to the page of a task that is notified and has not completed,
or has noted it for polling. -/
def Waits (scheduler : Scheduler) (key : Nat) : Prop :=
  ((∀ visit, scheduler.visit = some visit → visit.page < key / 64) ∧
    flag WakerPage.notified scheduler.pages key = true ∧
    flag WakerPage.completed scheduler.pages key = false) ∨ key ∈ scheduler.polling

/-- A page that lies ahead of the call lies ahead until the call comes to it. -/
theorem ahead_step (outcome : Outcome scheduler action scheduler') {page : Nat}
    (elsewhere : ¬ ComesTo scheduler scheduler' page)
    (ahead : ∀ visit, scheduler.visit = some visit → visit.page < page) :
    ∀ visit, scheduler'.visit = some visit → visit.page < page := by
  cases outcome with
  | idle | inserted | woken | dropped | taken => exact ahead
  | @entered action entered pages current from_ inside found =>
    rintro _ ⟨⟩
    have different : entered ≠ page := fun here =>
      elsewhere ⟨congrArg some here, here ▸ entered_elsewhere from_⟩
    obtain ⟨-, -, rfl, -⟩ | ⟨-, visit, visits, -, -, -, rfl, -⟩ := from_
    · exact Nat.pos_of_ne_zero different.symm
    · exact Nat.lt_of_le_of_ne (ahead visit visits) different
  | ended =>
    intro visit visits
    cases visits
  | polled visits | removed visits | spared visits | returned _ visits =>
    rintro _ ⟨⟩
    exact (ahead _ visits :)

/-- A due task with its handle is noted when the call comes to its page. -/
theorem noted_of_comesTo (sound : scheduler.Sound) (outcome : Outcome scheduler action scheduler')
    {key : Nat} (held : key ∈ scheduler.handles)
    (here : ComesTo scheduler scheduler' (key / 64))
    (set : flag WakerPage.notified scheduler.pages key = true)
    (unset : flag WakerPage.completed scheduler.pages key = false) :
    key ∈ scheduler'.polling := by
  obtain ⟨now, before⟩ := here
  cases outcome with
  | idle | inserted | woken | dropped | taken => exact absurd now before
  | ended => cases now
  | polled visits | removed visits | spared visits | returned _ visits =>
    rw [visits] at before
    exact absurd now before
  | @entered action page pages current from_ inside found =>
    have here : key / 64 = page := (Option.some.inj now).symm
    obtain ⟨notified, same⟩ := mem_entered found here set
    have dropped := (sound.held key held).2.1
    rw [flag_of_found found here] at unset dropped
    refine (mem_polling rfl).mpr ⟨key % 64, mem_bits.mpr ?_, same⟩
    rw [BitVec.getLsbD_and, BitVec.getLsbD_and, BitVec.getLsbD_not, BitVec.getLsbD_not,
      mem_bits.mp notified, unset, dropped]
    simp [Nat.mod_lt]

/-- A task that is noted stays noted until it is polled. -/
theorem noted_step (outcome : Outcome scheduler action scheduler') {key task : Nat}
    (occupied : scheduler.slab.get key = some task) (member : key ∈ scheduler.polling) :
    key ∈ scheduler'.polling ∨ scheduler.polls action = some task := by
  cases outcome with
  | idle | inserted | woken | dropped | taken => exact .inl member
  | entered from_ =>
    rw [(entered_nothing from_).1] at member
    cases member
  | ended from_ =>
    rw [(ended_nothing from_).1] at member
    cases member
  | @polled visit ix other notified visits running next found =>
    obtain ⟨offset, among, rfl⟩ := (mem_polling visits).mp member
    rw [next] at among
    obtain rfl | among := List.mem_cons.mp among
    · right
      simp [polls, visits, running, next, occupied]
    · left
      exact (@mem_polling _ { visit with notified, running := some ix } rfl _).mpr
        ⟨offset, among, rfl⟩
  | removed visits running polled =>
    obtain ⟨offset, among, -⟩ := (mem_polling visits).mp member
    rw [polled] at among
    cases among
  | spared visits | returned _ visits =>
    left
    rw [mem_polling visits] at member
    rw [mem_polling rfl]
    exact member

/-- While a task keeps its handle, the call has still to poll it or polls it now. -/
theorem waits_step (sound : scheduler.Sound) {key task : Nat}
    (outcome : Outcome scheduler action scheduler') (held : key ∈ scheduler.handles)
    (occupied : scheduler.slab.get key = some task) (still : scheduler'.slab.get key = some task)
    (waits : scheduler.Waits key) :
    scheduler'.Waits key ∨ scheduler.polls action = some task := by
  obtain ⟨ahead, set, unset⟩ | member := waits
  · left
    by_cases here : ComesTo scheduler scheduler' (key / 64)
    · exact .inr (noted_of_comesTo sound outcome held here set unset)
    · refine .inl ⟨ahead_step outcome here ahead, notified_step sound outcome still here set,
        uncompleted_step sound outcome (fun runs => ?_) unset⟩
      -- the task that runs is one of the page that the call visits
      exfalso
      obtain ⟨visit, visits, runs⟩ := Option.bind_eq_some_iff.mp runs
      obtain ⟨ix, running, rfl⟩ := Option.map_eq_some_iff.mp runs
      have there : visit.key ix / 64 = visit.page :=
        Visit.key_div ((sound.visits visit visits).1.runningInside ix running)
      exact Nat.lt_irrefl _ (there ▸ ahead visit visits)
  · exact (noted_step outcome occupied member).imp_left .inr

/-! ### The whole call -/

/-- A call goes on where a slot is occupied. -/
theorem begins_inside (sound : start.Sound) (idle : start.visit = none)
    (entered : start.step .poll = .ok stop) {key : Nat} (occupied : start.slab.get key ≠ none) :
    stop.visit ≠ none := by
  have covered := sound.covered key occupied
  cases step_outcome entered with
  | idle begins => exact absurd idle (begins rfl)
  | entered => exact Option.some_ne_none _
  | ended from_ =>
    obtain ⟨-, -, empty⟩ | ⟨wrong, -⟩ := from_
    · simp [empty] at covered
    · cases wrong

/-- It does not end before the page of a slot that was occupied when it began. -/
theorem Call.ends_behind {during : List Transition} (sound : start.Sound)
    (call : Call start during scheduler) (outcome : Outcome scheduler action scheduler') {key : Nat}
    (occupied : start.slab.get key ≠ none) {visit : Visit} (visits : scheduler.visit = some visit)
    (finished : scheduler'.visit = none) :
    ¬ visit.page < key / 64 ∧ scheduler.polling = [] ∧ scheduler.dropping = [] := by
  obtain ⟨-, none, empty, last⟩ := ended_step outcome visits finished
  have covered := sound.covered key occupied
  have pages := call.pages visit visits
  refine ⟨by omega, ?_, ?_⟩
  · simp [polling, visits, none]
  · simp [dropping, visits, empty]

/-- While the task of a slot without a handle is there, the call goes on and has still to
vacate the slot. -/
theorem Call.vacates {during : List Transition} (sound : start.Sound) (orderly : start.Orderly)
    (call : Call start during stop) (proper : Meets Proper during) {key task : Nat}
    (found : start.slab.get key = some task) (unheld : key ∉ start.handles) :
    stop.Orderly ∧ (stop.slab.get key = some task → stop.visit ≠ none ∧ stop.Leaves key) := by
  have old : task < start.inserted := sound.numbered key task found
  have occupied : start.slab.get key ≠ none := by
    rw [found]
    exact Option.some_ne_none _
  induction call with
  | begins idle entered =>
    have outcome := step_outcome entered
    obtain ⟨here, -⟩ := (meets_cons _ _ _).mp proper
    refine ⟨orderly_step sound orderly here outcome, ?_⟩
    intro still
    refine ⟨begins_inside sound idle entered occupied, ?_⟩
    refine leaves_step sound orderly outcome unheld occupied ?_ ?_
    · rw [still]
      exact Option.some_ne_none _
    · intro visit visits
      rw [idle] at visits
      cases visits
  | @goesOn during source target action earlier inside advanced inductionHypothesis =>
    have outcome := step_outcome advanced
    obtain ⟨here, before⟩ := (meets_cons _ _ _).mp proper
    obtain ⟨sound', since⟩ := since_run sound earlier.run
    obtain ⟨orderly', ahead⟩ := inductionHypothesis before
    refine ⟨orderly_step sound' orderly' here outcome, ?_⟩
    intro still
    obtain there | ⟨rfl, -⟩ := slab_step sound' outcome still
    · obtain ⟨-, leaves⟩ := ahead there
      constructor
      · intro finished
        obtain ⟨visit, visits⟩ := Option.ne_none_iff_exists'.mp inside
        obtain ⟨passed, -, none⟩ := earlier.ends_behind sound outcome occupied visits finished
        obtain before | member := leaves visit visits
        · exact passed before
        · rw [none] at member
          cases member
      · refine leaves_step sound' orderly' outcome ?_ ?_ ?_ leaves
        · intro held
          exact unheld (since.handles key task old there held)
        · rw [there]
          exact Option.some_ne_none _
        · rw [still]
          exact Option.some_ne_none _
    · exact absurd (Nat.lt_of_lt_of_le old since.inserted) (Nat.lt_irrefl _)

/-- A call polls the tasks that were due when it began, unless their handle goes. -/
theorem Call.attends {past during : List Transition} (recorded : Recorded past start)
    (sound : start.Sound) (call : Call start during stop) {key task : Nat}
    (found : start.slab.get key = some task) (held : key ∈ start.handles)
    (notified : flag WakerPage.notified start.pages key = true)
    (unfinished : task ∉ finishedTasks past) :
    task ∈ polledTasks during ∨ (stop.slab.get key = some task → key ∈ stop.handles →
      stop.visit ≠ none ∧ stop.Waits key) := by
  have old : task < start.inserted := sound.numbered key task found
  have occupied : start.slab.get key ≠ none := by
    rw [found]
    exact Option.some_ne_none _
  have uncompleted : flag WakerPage.completed start.pages key = false := by
    by_contra set
    exact unfinished ((recorded.completed key task found).mp (Bool.of_not_eq_false set))
  induction call with
  | begins idle entered =>
    right
    intro still _
    have inside := begins_inside sound idle entered occupied
    refine ⟨inside, ?_⟩
    have waits : start.Waits key := by
      refine .inl ⟨?_, notified, uncompleted⟩
      intro visit visits
      rw [idle] at visits
      cases visits
    refine (waits_step sound (step_outcome entered) held found still waits).resolve_right ?_
    intro polls
    cases polls
  | @goesOn during source target action earlier inside advanced inductionHypothesis =>
    have outcome := step_outcome advanced
    obtain ⟨sound', since⟩ := since_run sound earlier.run
    obtain polled | ahead := inductionHypothesis
    · left
      obtain ⟨transition, among, polls⟩ := List.mem_filterMap.mp polled
      exact List.mem_filterMap.mpr ⟨transition, List.mem_cons_of_mem _ among, polls⟩
    · by_cases polls : source.polls action = some task
      · left
        exact List.mem_filterMap.mpr ⟨_, List.mem_cons_self, polls⟩
      · right
        intro still held'
        obtain there | ⟨rfl, -⟩ := slab_step sound' outcome still
        · have before : key ∈ source.handles := by
            obtain before | vacant := handles_step sound' outcome held'
            · exact before
            · rw [there] at vacant
              cases vacant
          obtain ⟨-, waits⟩ := ahead there before
          have goesOn : target.visit ≠ none := by
            intro finished
            obtain ⟨visit, visits⟩ := Option.ne_none_iff_exists'.mp inside
            obtain ⟨passed, none, -⟩ := earlier.ends_behind sound outcome occupied visits finished
            obtain ⟨before, -, -⟩ | member := waits
            · exact passed (before visit visits)
            · rw [none] at member
              cases member
          refine ⟨goesOn, ?_⟩
          exact (waits_step sound' outcome before there still waits).resolve_right polls
        · exact absurd (Nat.lt_of_lt_of_le old since.inserted) (Nat.lt_irrefl _)

/-- A call that has ended has polled the tasks that were due, unless their handle is gone. -/
theorem Call.polls_due {past during : List Transition} (recorded : Recorded past start)
    (sound : start.Sound) (call : Call start during stop) {key task : Nat}
    (held : key ∈ start.handles) (found : start.slab.get key = some task)
    (notified : flag WakerPage.notified start.pages key = true)
    (unfinished : task ∉ finishedTasks past) (finished : stop.visit = none) :
    task ∈ polledTasks during ∨ ¬ stop.Held task := by
  obtain ⟨-, since⟩ := since_run sound call.run
  refine (call.attends recorded sound found held notified unfinished).imp_right ?_
  rintro ahead ⟨other, held', found'⟩
  have old : task < start.inserted := sound.numbered key task found
  obtain rfl : other = key := sound.distinct other key task (since.slab other task old found') found
  exact (ahead found' held').1 finished

/-- A task that has been woken since a call came to its page, or is new, is polled by the call
that ends next, unless it has returned `Ready` or its handle is gone. -/
theorem Call.polls_woken {past later during : List Transition} {source target : Scheduler}
    (before : Run default past source) (advanced : source.step action = .ok target)
    {key task : Nat} (notifies : source.notifies action = some key)
    (found : target.slab.get key = some task) (after : Run target later start)
    (unvisited : ∀ transition ∈ later,
      ¬ ComesTo transition.source transition.target (key / 64))
    (call : Call start during stop) (held : key ∈ start.handles)
    (still : start.slab.get key = some task)
    (unfinished : task ∉ finishedTasks (later ++ ⟨source, action, target⟩ :: past))
    (finished : stop.visit = none) : task ∈ polledTasks during ∨ ¬ stop.Held task := by
  have reached : Run default (later ++ ⟨source, action, target⟩ :: past) start :=
    (Runs.Run.step action before advanced).append after
  exact call.polls_due (recorded_run reached).1 (sound_run reached) held still
    (notified_until_visited before advanced notifies found after still unvisited) unfinished finished

/-! ### The end of a call -/

/-- What a call has still to do: each page costs more than the bits that it can hold. -/
def remaining (scheduler : Scheduler) : Nat :=
  (scheduler.visit.map fun visit => 1 + 200 * (visit.pages - visit.page) +
    2 * visit.notified.length + visit.dropped.length + visit.running.toList.length).getD 0

/-- A bitmap has at most 64 bits set. -/
theorem length_bits (bitmap : BitVec 64) : (bits bitmap).length ≤ 64 := by
  have shorter := List.length_filter_le (fun ix => bitmap.getLsbD ix) (List.range 64)
  rwa [List.length_range] at shorter

/-- A call that goes on has less to do afterwards. -/
theorem remaining_advance {visit : Visit} (visits : scheduler.visit = some visit)
    (still : visit.running = none) (advanced : scheduler.step .advance = .ok scheduler') :
    scheduler'.remaining < scheduler.remaining := by
  have before : scheduler.remaining = 1 + 200 * (visit.pages - visit.page) +
      2 * visit.notified.length + visit.dropped.length := by
    simp [remaining, visits, still]
  cases step_outcome advanced with
  | idle begins returns advances =>
    have nothing := advances rfl
    simp [running, visits, still] at nothing
  | @entered action page pages current from_ inside found =>
    have notified := length_bits (current.notified &&& ~~~current.completed &&& ~~~current.dropped)
    have dropped := length_bits current.dropped
    obtain ⟨wrong, -⟩ | ⟨-, other, same, -, -, -, rfl, rfl⟩ := from_
    · cases wrong
    · obtain rfl : visit = other := Option.some.inj (visits.symm.trans same)
      rw [before]
      simp only [remaining, Option.map_some, Option.getD_some, Option.toList_none, List.length_nil]
      omega
  | ended =>
    rw [before]
    simp only [remaining, Option.map_none, Option.getD_none]
    omega
  | @polled other ix task notified same running next =>
    obtain rfl : visit = other := Option.some.inj (visits.symm.trans same)
    rw [before, next]
    simp only [remaining, Option.map_some, Option.getD_some, Option.toList_some, List.length_cons,
      List.length_nil]
    omega
  | @removed other ix dropped same running polled next | @spared other dropped same running polled next =>
    obtain rfl : visit = other := Option.some.inj (visits.symm.trans same)
    rw [before, next]
    simp only [remaining, Option.map_some, Option.getD_some, running, Option.toList_none,
      List.length_cons, List.length_nil]
    omega

/-- So has a call whose task has returned. -/
theorem remaining_returned {visit : Visit} {ix : Nat} (visits : scheduler.visit = some visit)
    (runs : visit.running = some ix) (advanced : scheduler.step (.returned false) = .ok scheduler') :
    scheduler'.remaining < scheduler.remaining := by
  simp only [step, visits, runs] at advanced
  cases advanced
  simp [remaining, visits, runs]

/-- A call can be brought to its end: the tasks return and the call goes on. -/
theorem Call.ends {during : List Transition} (sound : stop.Sound) (answered : stop.Answered)
    (call : Call start during stop) :
    ∃ rest final, Call start (rest ++ during) final ∧ final.visit = none := by
  induction bound : stop.remaining using Nat.strong_induction_on generalizing stop during with
  | _ bound' inductionHypothesis =>
    subst bound
    cases visits : stop.visit with
    | none => exact ⟨[], stop, call, visits⟩
    | some visit =>
      have inside : stop.visit ≠ none := by
        rw [visits]
        exact Option.some_ne_none _
      have goesOn (action : SchedulerAction) (careful : stop.Careful action)
          (less : ∀ after, stop.step action = .ok after → after.remaining < stop.remaining) :
          ∃ rest final, Call start (rest ++ during) final ∧ final.visit = none := by
        obtain ⟨after, advanced⟩ := step_returns sound answered action
        obtain ⟨rest, final, whole, finished⟩ := inductionHypothesis _ (less after advanced)
          (sound_step sound advanced) (answered_step sound answered careful advanced)
          (.goesOn action call inside advanced) rfl
        exact ⟨rest ++ [⟨stop, action, after⟩], final, by simpa using whole, finished⟩
      cases running : visit.running with
      | none =>
        refine goesOn .advance trivial fun after advanced => ?_
        exact remaining_advance visits running advanced
      | some ix =>
        refine goesOn (.returned false) trivial fun after advanced => ?_
        exact remaining_returned visits running advanced

/-! ## Dropped, finished and notified tasks -/

/-- In every proper run, for every call to `poll` in it:

* a task whose handle was dropped before the call is polled neither in it nor later, and
  its slot is vacated by its end;
* no task is polled after it has returned `Ready`;
* a task that was notified when the call began (woken or inserted since its page was visited,
  `notified_until_visited`), had not returned `Ready` and keeps its handle is polled in it;
* the call can be brought to its end, and no action panics on the way.

Proof: the parts are assembled from three invariants of the whole run. `sound_run`
relates the slab, the pages and the handles, `orderly_run` says where a flag or a visit
names a task, and `recorded_run` compares both with the history. That the call ends is
an induction on what it has still to visit. -/
theorem calls_to_poll {past during later : List Transition} {ended : Scheduler}
    (before : Run default past start) (call : Call start during ended)
    (after : Run ended later stop) (proper : Meets Proper (later ++ during ++ past)) :
    (∀ task ∈ droppedTasks past,
      task ∉ polledTasks (later ++ during) ∧ (ended.visit = none → ¬ ended.Present task)) ∧
    Follows Unfinished (later ++ during ++ past) ∧
    (∀ key ∈ start.handles, ∀ task, start.slab.get key = some task →
      flag WakerPage.notified start.pages key = true → task ∉ finishedTasks past →
        ended.visit = none → task ∈ polledTasks during ∨ ¬ ended.Held task) ∧
    (∃ rest final, Call start (rest ++ during) final ∧ final.visit = none) ∧
    ∀ action, ∃ next, stop.step action = .ok next := by
  obtain ⟨properCall, properPast⟩ := meets_append.mp proper
  obtain ⟨properLater, properDuring⟩ := meets_append.mp properCall
  have careful : Meets Careful (later ++ during ++ past) := fun _ member => (proper _ member).1
  have sound := sound_run before
  have orderly := orderly_run before properPast
  have reached : Run default (during ++ past) ended := before.append call.run
  have whole : Run default (later ++ during ++ past) stop := by
    rw [List.append_assoc]
    exact reached.append after
  obtain ⟨-, since⟩ := since_run sound call.run
  refine ⟨?_, (recorded_run whole).2, ?_, ?_, ?_⟩
  · intro task dropped
    obtain ⟨old, gone⟩ := dropped_not_held before task dropped
    refine ⟨abandoned_unpolled sound orderly call.idle (call.run.append after) properCall task old
      gone, ?_⟩
    rintro finished ⟨key, found⟩
    have there := since.slab key task old found
    have unheld : key ∉ start.handles := fun held => gone ⟨key, held, there⟩
    exact ((call.vacates sound orderly properDuring there unheld).2 found).1 finished
  · intro key held task found notified unfinished finished
    exact call.polls_due (recorded_run before).1 sound held found notified unfinished finished
  · rw [List.append_assoc] at careful
    exact call.ends (sound_run reached) (answered_run reached (meets_append.mp careful).2)
  · exact step_returns (sound_run whole) (answered_run whole careful)

/-- Of three tasks the second is dropped: a call polls the two others and vacates its slot. -/
theorem second_task_removed :
    ∃ past start during ended, Run default past start ∧ Call start during ended ∧
      1 ∈ droppedTasks past ∧ ended.visit = none ∧ 1 ∉ polledTasks during ∧ ¬ ended.Present 1 := by
  have executed : ∃ past start during ended,
      execute step ([], default) [.insert, .insert, .insert, .drop 1] = .ok (past, start) ∧
      Call start during ended ∧ Meets Proper ([] ++ during ++ past) ∧ 1 ∈ droppedTasks past ∧
      ended.visit = none :=
    ⟨_, _, _, _, rfl, .goesOn .advance (.goesOn .advance (.goesOn (.returned false)
      (.goesOn .advance (.goesOn (.returned true) (.goesOn .advance (.begins rfl rfl)
      (by decide) rfl) (by decide) rfl) (by decide) rfl) (by decide) rfl) (by decide) rfl)
      (by decide) rfl, by decide, by decide, rfl⟩
  obtain ⟨past, start, during, ended, executed, call, proper, dropped, finished⟩ := executed
  have run : Run default past start := run_of_execute .nil executed
  obtain ⟨unpolled, vacated⟩ := (calls_to_poll run call .nil proper).1 1 dropped
  exact ⟨past, start, during, ended, run, call, dropped, finished, unpolled, vacated finished⟩

/-- The first task is polled once and its handle is dropped: after a whole call the task is
still in its slot, and when it is woken the next call polls it. -/
theorem first_task_kept :
    ∃ past start during ended later stop, Run default past start ∧ Call start during ended ∧
      Run ended later stop ∧ Meets Careful (later ++ during ++ past) ∧ 0 ∈ polledTasks past ∧
      0 ∈ droppedTasks past ∧ ended.visit = none ∧ ended.slab.get 0 = some 0 ∧
      0 ∈ polledTasks later := by
  have executed : ∃ past start during ended later stop,
      execute step ([], default) [.insert, .poll, .advance, .returned false, .advance, .drop 0] =
        .ok (past, start) ∧
      Call start during ended ∧
      execute step ([], ended) [.wake 0, .poll, .advance] = .ok (later, stop) ∧
      Meets Careful (later ++ during ++ past) ∧ 0 ∈ polledTasks past ∧ 0 ∈ droppedTasks past ∧
      ended.visit = none ∧ ended.slab.get 0 = some 0 ∧ 0 ∈ polledTasks later :=
    ⟨_, _, _, _, _, _, rfl, .goesOn .advance (.goesOn .advance (.begins rfl rfl) (by decide) rfl)
      (by decide) rfl, rfl, by decide, by decide, by decide, rfl, rfl, by decide⟩
  obtain ⟨past, start, during, ended, later, stop, before, call, after, rest⟩ := executed
  exact ⟨past, start, during, ended, later, stop, run_of_execute .nil before, call,
    run_of_execute .nil after, rest⟩

end Scheduler

end Capybara
