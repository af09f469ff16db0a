import Capybara.Scheduler.Soundness

/-!
# Wakers that outlive their task

A waker names a page and a bit. Taking a task and removing a dropped one clear the flags
of the slot, but a waker that is invoked afterwards sets the flag of a vacant slot, and
the next call to `poll` unwraps an empty slot.

While wakers are invoked only for occupied slots, and no task is taken that a call to
`poll` runs or has still to run, every notified slot is occupied and no action of the
scheduler panics.
-/

namespace Capybara

open Runs

namespace Scheduler

/-- A waker is invoked while its slot is occupied, and a task is not taken while a call to
`poll` runs it or has still to run it. -/
def Careful (scheduler : Scheduler) : SchedulerAction → Prop
  | .wake key => scheduler.slab.get key ≠ none
  | .take key => key ∉ scheduler.polling ∧ scheduler.running ≠ some key
  | _ => True

instance (scheduler : Scheduler) : (action : SchedulerAction) → Decidable (scheduler.Careful action)
  | .wake key => inferInstanceAs (Decidable (scheduler.slab.get key ≠ none))
  | .take key =>
    inferInstanceAs (Decidable (key ∉ scheduler.polling ∧ scheduler.running ≠ some key))
  | .insert | .drop _ | .poll | .advance | .returned _ => inferInstanceAs (Decidable True)

/-- Every notified slot is occupied, those included that a call to `poll` has noted. -/
structure Answered (scheduler : Scheduler) : Prop where
  notified : ∀ key, flag WakerPage.notified scheduler.pages key = true →
    scheduler.slab.get key ≠ none
  polling : ∀ key ∈ scheduler.polling, scheduler.slab.get key ≠ none

variable {scheduler scheduler' : Scheduler}

/-- The slots that are notified stay occupied when others are vacated. -/
theorem Answered.vacated (answered : scheduler.Answered) (sound : scheduler.Sound) {key : Nat}
    {handles : List Nat} {visit : Option Visit}
    (fewer : ∀ other ∈ ({ scheduler with visit } : Scheduler).polling,
      other ≠ key ∧ other ∈ scheduler.polling) :
    Answered { scheduler with
      slab := scheduler.slab.remove key
      pages := onPage scheduler.pages key .clear
      handles, visit } := by
  obtain ⟨-, get⟩ := sound.slab.remove key
  constructor
  · intro other set
    dsimp only at set ⊢
    rw [flag_clear (fun _ _ => rfl), Bool.and_eq_true, decide_eq_true_eq] at set
    rw [get, if_neg set.1]
    exact answered.notified other set.2
  · intro other member
    obtain ⟨different, member⟩ := fewer other member
    dsimp only
    rw [get, if_neg different]
    exact answered.polling other member

/-- A careful action keeps every notified slot occupied. -/
theorem answered_step {action : SchedulerAction} (sound : scheduler.Sound)
    (answered : scheduler.Answered) (careful : scheduler.Careful action)
    (advanced : scheduler.step action = .ok scheduler') : scheduler'.Answered := by
  cases step_outcome advanced with
  | idle => exact answered
  | @inserted key slab inserts =>
    obtain ⟨-, vacant, get⟩ := sound.insert inserts
    obtain ⟨covers, -⟩ := length_grown key scheduler.pages
    have kept {other : Nat} (occupied : scheduler.slab.get other ≠ none) : slab.get other ≠ none := by
      rw [get]
      split
      · exact Option.some_ne_none _
      · exact occupied
    constructor
    · intro other set
      dsimp only at set ⊢
      rw [flag_set (fun _ _ => rfl) covers, flag_append rfl, Bool.or_eq_true, decide_eq_true_eq] at set
      obtain rfl | set := set
      · rw [get, if_pos rfl]
        exact Option.some_ne_none _
      · exact kept (answered.notified other set)
    · intro other member
      exact kept (answered.polling other member)
  | woken key =>
    refine ⟨?_, answered.polling⟩
    intro other set
    dsimp only at set ⊢
    rw [flag_set (fun _ _ => rfl) (sound.covered key careful), Bool.or_eq_true,
      decide_eq_true_eq] at set
    obtain rfl | set := set
    · exact careful
    · exact answered.notified other set
  | @dropped key held =>
    refine ⟨?_, answered.polling⟩
    intro other set
    dsimp only at set ⊢
    rw [flag_same _ .markDropped (fun _ _ => rfl)] at set
    exact answered.notified other set
  | @taken key held =>
    refine answered.vacated sound ?_
    intro other member
    refine ⟨?_, member⟩
    rintro rfl
    exact careful.1 member
  | @entered action page pages current from_ inside found =>
    have within : page < scheduler.pages.length := (List.getElem?_eq_some_iff.mp found).1
    constructor
    · intro key set
      dsimp only at set ⊢
      rw [flag_replace within] at set
      split at set
      · simp at set
      · exact answered.notified key set
    · intro key member
      obtain ⟨ix, among, rfl⟩ := (mem_polling rfl).mp member
      have bit := mem_bits.mp among
      have small := BitVec.lt_of_getLsbD bit
      rw [BitVec.getLsbD_and, BitVec.getLsbD_and, Bool.and_eq_true, Bool.and_eq_true] at bit
      refine answered.notified _ ?_
      unfold Visit.key
      rw [flag_at found small]
      exact bit.1.1
  | ended =>
    refine ⟨answered.notified, ?_⟩
    intro key member
    cases member
  | @polled visit ix task notified visits still next occupied =>
    refine ⟨answered.notified, ?_⟩
    intro key member
    obtain ⟨offset, among, rfl⟩ := (mem_polling rfl).mp member
    refine answered.polling _ ((mem_polling visits).mpr ⟨offset, ?_, rfl⟩)
    rw [next]
    exact List.mem_cons_of_mem _ among
  | @removed visit ix dropped visits still polled next later =>
    refine answered.vacated sound ?_
    intro key member
    obtain ⟨offset, among, -⟩ := (mem_polling rfl).mp member
    dsimp only at among
    rw [polled] at among
    cases among
  | @spared visit dropped visits still polled next =>
    refine ⟨answered.notified, ?_⟩
    intro key member
    obtain ⟨offset, among, rfl⟩ := (mem_polling rfl).mp member
    exact answered.polling _ ((mem_polling visits).mpr ⟨offset, among, rfl⟩)
  | @returned visit ix ready visits running =>
    have same (other : Nat) : flag WakerPage.notified
        (if ready then onPage scheduler.pages (visit.key ix) .markCompleted else scheduler.pages)
        other = flag WakerPage.notified scheduler.pages other := by
      split
      · exact flag_same _ .markCompleted (fun _ _ => rfl) _ other
      · rfl
    constructor
    · intro key set
      exact answered.notified key ((same key).symm.trans set)
    · intro key member
      obtain ⟨offset, among, rfl⟩ := (mem_polling rfl).mp member
      exact answered.polling _ ((mem_polling visits).mpr ⟨offset, among, rfl⟩)

/-- Coming to a page returns, as the page exists. -/
theorem enter_returns {page pages : Nat} (known : pages ≤ scheduler.pages.length) :
    ∃ after, scheduler.enter page pages = .ok after := by
  unfold enter
  split
  · rename_i inside
    have within : page < scheduler.pages.length := Nat.lt_of_lt_of_le inside known
    rw [List.getElem?_eq_getElem within]
    exact ⟨_, rfl⟩
  · exact ⟨_, rfl⟩

/-- Every action returns while the notified slots are occupied. -/
theorem step_returns (sound : scheduler.Sound) (answered : scheduler.Answered)
    (action : SchedulerAction) : ∃ after, scheduler.step action = .ok after := by
  cases action with
  | insert =>
    obtain ⟨key, slab, inserts, -⟩ := sound.slab.insert scheduler.inserted
    unfold step insert
    rw [inserts]
    exact ⟨_, rfl⟩
  | wake key => exact ⟨_, rfl⟩
  | drop key => exact ⟨_, rfl⟩
  | take key =>
    unfold step take
    dsimp only
    split
    · rename_i held
      obtain ⟨occupied, unmarked, -⟩ := sound.held key held
      obtain ⟨task, found⟩ := Option.ne_none_iff_exists'.mp occupied
      rw [if_neg (Nat.not_le_of_lt (sound.covered key occupied)), unmarked,
        if_neg Bool.false_ne_true, found]
      exact ⟨_, rfl⟩
    · exact ⟨_, rfl⟩
  | poll =>
    unfold step
    dsimp only
    split
    · exact enter_returns (Nat.le_refl _)
    · exact ⟨_, rfl⟩
  | advance =>
    unfold step
    dsimp only
    split
    · exact ⟨_, rfl⟩
    rename_i visit visits
    split
    · exact ⟨_, rfl⟩
    unfold advance
    split
    · rename_i ix notified next
      have occupied : scheduler.slab.get (visit.key ix) ≠ none := by
        refine answered.polling _ ((mem_polling visits).mpr ⟨ix, ?_, rfl⟩)
        rw [next]
        exact List.mem_cons_self
      obtain ⟨task, found⟩ := Option.ne_none_iff_exists'.mp occupied
      rw [found]
      exact ⟨_, rfl⟩
    · split
      · split
        · exact ⟨_, rfl⟩
        · exact ⟨_, rfl⟩
      · exact enter_returns (sound.visits visit visits).2
  | returned ready =>
    unfold step
    dsimp only
    split
    · exact ⟨_, rfl⟩
    split
    · exact ⟨_, rfl⟩
    · exact ⟨_, rfl⟩

/-- A new scheduler has been woken by nobody. -/
theorem Answered.default : Answered default where
  notified := by intro key set; cases set
  polling := by intro key member; cases member

/-- The notified slots are occupied in every careful run. -/
theorem answered_run {past : List Transition} (run : Run default past scheduler)
    (careful : Meets Careful past) : scheduler.Answered := by
  refine run_invariant (fun _ scheduler => Answered scheduler) .default ?_ run careful
  intro past source action target earlier here answered advanced
  exact answered_step (sound_run earlier) answered here advanced

/-- In every run in which wakers are invoked for occupied slots only, and no task is taken
that a call to `poll` runs or has still to run, neither `poll` nor any other action panics.

Proof: `Sound` and `Answered` are kept along the run, the second by careful actions
only. Every lookup that a step makes then finds its slot or its page, so that no branch
is left that panics. -/
theorem stale_wakes_harmless {past : List Transition} (run : Run default past scheduler)
    (careful : Meets Careful past) (action : SchedulerAction) :
    ∃ after, scheduler.step action = .ok after :=
  step_returns (sound_run run) (answered_run run careful) action

/-- A task is polled, taken, and its slot is used again before its waker is invoked. -/
theorem reused_slot_polled :
    ∃ past scheduler, execute step ([], default)
        [.insert, .poll, .advance, .returned false, .advance, .take 0, .insert, .wake 0, .poll] =
        .ok (past, scheduler) ∧
      ∃ after, scheduler.step .advance = .ok after := by
  have executed : ∃ past scheduler, execute step ([], default)
      [.insert, .poll, .advance, .returned false, .advance, .take 0, .insert, .wake 0, .poll] =
        .ok (past, scheduler) ∧ Meets Careful past := ⟨_, _, rfl, by decide⟩
  obtain ⟨past, scheduler, executed, careful⟩ := executed
  exact ⟨past, scheduler, executed,
    stale_wakes_harmless (run_of_execute .nil executed) careful .advance⟩

/-- A task is polled and taken, and its waker is invoked afterwards: the next call to
`poll` panics. -/
theorem stale_wake_panics :
    ∃ past scheduler, execute step ([], default)
        [.insert, .poll, .advance, .returned false, .advance, .take 0, .wake 0, .poll] =
        .ok (past, scheduler) ∧
      scheduler.step .advance = .error .emptySlot :=
  ⟨_, _, rfl, rfl⟩

end Scheduler

end Capybara
