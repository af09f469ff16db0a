import Capybara.Scheduler.PageRefs

/-!
# The scheduler over its memory

No operation of the scheduler, of a handle or of a waker touches a page that has been freed,
and a page is freed with the last reference to it, neither before nor later. Up to this, the
scheduler over the memory is the scheduler over a list of pages; an address only tells which
task a waker wakes.
-/

namespace Capybara

open References Runs

namespace PagedScheduler

/-- Everything that refers to a page, by the page that it refers to. -/
def held (scheduler : PagedScheduler) : List Nat :=
  scheduler.pages ++ scheduler.handles.map Prod.snd ++
    (scheduler.wakers.map fun ptr => (WakerRef.basePtr ptr).1) ++
    (scheduler.current.toList.map fun ptr => (WakerRef.basePtr ptr).1)

/-- The flags of the pages of the scheduler. -/
def statuses (memory : PageMemory) (pages : List Nat) : List WakerPage :=
  pages.map fun page => (memory.read page).getD .default

/-- The scheduler over a list of pages. -/
def abstract (scheduler : PagedScheduler) : Scheduler where
  slab := scheduler.slab
  pages := statuses scheduler.memory scheduler.pages
  inserted := scheduler.inserted
  handles := scheduler.handles.map Prod.fst
  visit := scheduler.visit

/-- The key of the task that a waker was made for. -/
def keyOf (scheduler : PagedScheduler) (ptr : Nat) : Nat :=
  scheduler.pages.idxOf (WakerRef.basePtr ptr).1 * 64 + (WakerRef.basePtr ptr).2

/-- What an action is for the scheduler over a list of pages, where wakers are not counted. -/
def abstractAction (scheduler : PagedScheduler) : PagedAction → Option SchedulerAction
  | .insert _ => some .insert
  | .drop key => some (.drop key)
  | .take key => some (.take key)
  | .poll => some .poll
  | .advance => some .advance
  | .returned ready => some (.returned ready)
  | .wake ptr => if ptr ∈ scheduler.wakers then some (.wake (scheduler.keyOf ptr)) else none
  | .wakeByRef ptr => if scheduler.reaches ptr then some (.wake (scheduler.keyOf ptr)) else none
  | .cloneWaker _ | .dropWaker _ | .shutdown => none

/-- The allocator gives out new pages at multiples of their size, and there are fewer
references than can be counted. -/
def Admissible (scheduler : PagedScheduler) : PagedAction → Prop
  | .insert addresses => addresses.Nodup ∧
      (∀ address ∈ addresses, address % WAKER_PAGE_SIZE = 0 ∧
        scheduler.memory.lookup address = none) ∧
      scheduler.held.length + addresses.length < MAX_REFCOUNT
  | _ => scheduler.held.length < MAX_REFCOUNT

instance (scheduler : PagedScheduler) (action : PagedAction) :
    Decidable (scheduler.Admissible action) :=
  match action with
  | .insert _ => inferInstanceAs (Decidable (_ ∧ _ ∧ _))
  | .drop _ | .take _ | .poll | .advance | .returned _ | .cloneWaker _ | .wake _ | .wakeByRef _
  | .dropWaker _ | .shutdown => inferInstanceAs (Decidable (_ < _))

/-- What holds between the actions. -/
structure Sound (scheduler : PagedScheduler) : Prop where
  accounts : scheduler.memory.Accounts fun page => scheduler.held.count page
  aligned : ∀ page ∈ scheduler.held, page % WAKER_PAGE_SIZE = 0
  distinct : scheduler.pages.Nodup
  chunks : scheduler.closed = false → ∀ handle ∈ scheduler.handles,
    scheduler.pages[handle.1 / 64]? = some handle.2
  wakers : scheduler.closed = false → ∀ ptr ∈ scheduler.wakers,
    (WakerRef.basePtr ptr).1 ∈ scheduler.pages
  idle : scheduler.visit = none → scheduler.current = none
  visits : ∀ visit, scheduler.visit = some visit → scheduler.closed = false ∧
    visit.page < scheduler.pages.length ∧ (∀ ix ∈ visit.notified, ix < 64) ∧
    (∀ ix ∈ visit.dropped, ix < 64) ∧ (∀ ix ∈ visit.running, ix < 64) ∧
    scheduler.current = visit.running.bind fun ix =>
      (scheduler.pages[visit.page]?).map fun page => page + ix

/-! ## The flags in the memory -/

/-- What the memory returns is returned. -/
theorem lift_ok {α : Type} (value : α) : lift (.ok value : Except ReferenceFault α) = .ok value := rfl

/-- Pages that read the same have the same flags. -/
theorem statuses_same {memory memory' : PageMemory} {pages : List Nat}
    (reads : ∀ page ∈ pages, memory'.read page = memory.read page) :
    statuses memory' pages = statuses memory pages := by
  refine List.map_congr_left fun page member => ?_
  rw [reads page member]

/-- The flags of a page stand at its place in the list. -/
theorem getElem?_statuses {memory : PageMemory} {pages : List Nat} {index page : Nat}
    {status : WakerPage} (found : pages[index]? = some page) (live : memory.read page = some status) :
    (statuses memory pages)[index]? = some status := by
  rw [statuses, List.getElem?_map, found, Option.map_some, live, Option.getD_some]

/-- A page that changes. -/
theorem statuses_update {memory memory' : PageMemory} {pages : List Nat} {index page : Nat}
    {operation : WakerPage → WakerPage} (distinct : pages.Nodup) (found : pages[index]? = some page)
    {status : WakerPage} (live : memory.read page = some status)
    (reads : ∀ other, memory'.read other =
      if other = page then (memory.read page).map operation else memory.read other) :
    statuses memory' pages = (statuses memory pages).modify index operation := by
  refine List.ext_getElem? fun other => ?_
  rw [List.getElem?_modify, statuses, statuses, List.getElem?_map, List.getElem?_map]
  by_cases same : index = other
  · subst same
    simp only [found, reads, live, if_true, Option.map_some, Option.map_eq_map, Option.getD_some]
  · cases elsewhere : pages[other]? with
    | none => rfl
    | some page' =>
      have different : page' ≠ page := by
        rintro rfl
        obtain ⟨inside, -⟩ := List.getElem?_eq_some_iff.mp found
        exact same ((List.getElem?_inj inside distinct).mp (found.trans elsewhere.symm))
      simp only [reads, if_neg different, if_neg same, Option.map_some, Option.map_eq_map]

/-- A new page has no flag set. -/
theorem statuses_append {memory memory' : PageMemory} {pages new : List Nat}
    (reads : ∀ page ∈ pages, memory'.read page = memory.read page)
    (fresh : ∀ page ∈ new, memory'.read page = some .default) :
    statuses memory' (pages ++ new) =
      statuses memory pages ++ List.replicate new.length WakerPage.default := by
  rw [statuses, List.map_append, ← statuses, statuses_same reads]
  congr 1
  refine List.eq_replicate_iff.mpr ⟨List.length_map _, ?_⟩
  intro status member
  obtain ⟨page, inside, rfl⟩ := List.mem_map.mp member
  rw [fresh page inside, Option.getD_some]

/-- New pages are accounted for. -/
theorem allocateAll_accounts {addresses : List Nat} {memory : PageMemory} {references : Nat → Nat}
    (accounts : memory.Accounts references) (distinct : addresses.Nodup)
    (fresh : ∀ address ∈ addresses, memory.lookup address = none) :
    (allocateAll addresses memory).Accounts (fun page => references page + addresses.count page) ∧
      (∀ address ∈ addresses, (allocateAll addresses memory).read address = some .default) ∧
      ∀ other ∉ addresses, (allocateAll addresses memory).read other = memory.read other := by
  induction addresses generalizing memory references with
  | nil => exact ⟨accounts, by simp, fun _ _ => rfl⟩
  | cons address addresses inductionHypothesis =>
    obtain ⟨apart, distinct⟩ := List.nodup_cons.mp distinct
    have allocated := accounts.allocate (fresh address List.mem_cons_self) WakerPage.default
    have later : ∀ other ∈ addresses,
        (memory.allocate address WakerPage.default).lookup other = none := by
      intro other member
      have different : other ≠ address := fun same => apart (same ▸ member)
      rw [Heap.allocate, AList.lookup_insert_ne different]
      exact fresh other (List.mem_cons_of_mem _ member)
    obtain ⟨accounts', new, old⟩ := inductionHypothesis allocated distinct later
    have here : (memory.allocate address WakerPage.default).read address = some .default := by
      rw [Heap.read, Heap.allocate, AList.lookup_insert]
      rfl
    refine ⟨accounts'.congr fun other => ?_, fun other member => ?_, fun other outside => ?_⟩
    · rw [Heap.plus, List.count_cons]
      simp only [beq_iff_eq, eq_comm (a := address)]
      omega
    · obtain rfl | member := List.mem_cons.mp member
      · exact (old other apart).trans here
      · exact new other member
    · obtain ⟨different, outside⟩ := not_or.mp (mt List.mem_cons.mpr outside)
      refine (old other outside).trans (Heap.read_eq ?_)
      exact AList.lookup_insert_ne different

/-! ## What is held -/

/-- What an element of a list contributes to the count. -/
theorem count_map_erase {α : Type} [BEq α] [LawfulBEq α] (page : α → Nat) {list : List α} {element : α}
    (member : element ∈ list) (other : Nat) :
    (list.map page).count other =
      ((list.erase element).map page).count other + if other = page element then 1 else 0 := by
  have same := ((List.perm_cons_erase member).map page).count_eq other
  rw [List.map_cons, List.count_cons] at same
  simpa only [beq_iff_eq, eq_comm (a := page element)] using same

variable {scheduler : PagedScheduler}

/-- The first handle of a key is the one that is given up. -/
theorem map_erase_find {handles : List (Nat × Nat)} {key : Nat} {handle : Nat × Nat}
    (found : handles.find? (fun handle => handle.1 == key) = some handle) :
    (handles.erase handle).map Prod.fst = (handles.map Prod.fst).erase key := by
  have named : handle.1 = key := by simpa using List.find?_some found
  induction handles with
  | nil => cases found
  | cons first handles inductionHypothesis =>
    rw [List.find?_cons] at found
    by_cases here : first.1 = key
    · rw [beq_iff_eq.mpr here] at found
      cases found
      rw [List.erase_cons_head, List.map_cons, here, List.erase_cons_head]
    · rw [beq_eq_false_iff_ne.mpr here] at found
      have different : first ≠ handle := fun same => here (same ▸ named)
      rw [List.erase_cons_tail (by simpa using different), List.map_cons, List.map_cons,
        List.erase_cons_tail (by simpa using here), inductionHypothesis found]

/-- A key has a handle over the list of pages exactly if it has one over the memory. -/
theorem mem_handles_iff (scheduler : PagedScheduler) (key : Nat) :
    key ∈ scheduler.abstract.handles ↔
      scheduler.handles.find? (fun handle => handle.1 == key) ≠ none := by
  rw [ne_eq, List.find?_eq_none, abstract, List.mem_map]
  simp only [beq_iff_eq, not_forall, not_not]
  constructor
  · rintro ⟨handle, member, same⟩
    exact ⟨handle, member, same⟩
  · rintro ⟨handle, member, same⟩
    exact ⟨handle, member, same⟩

/-- What a waker adds to the address of its page is a slot of the page. -/
theorem basePtr_lt (ptr : Nat) : (WakerRef.basePtr ptr).2 < 64 := by
  unfold WakerRef.basePtr WAKER_PAGE_SIZE
  dsimp only
  split
  · dsimp only
    omega
  · exact Nat.zero_lt_succ 63

namespace Sound

variable (sound : scheduler.Sound)
include sound

/-- A page that is referred to can be read. -/
theorem read_held {page : Nat} (member : page ∈ scheduler.held) :
    ∃ status, scheduler.memory.read page = some status :=
  sound.accounts.read_live (List.count_pos_iff.mpr member)

/-- A page that is referred to can be written, which changes no count and no other page. -/
theorem update_held {page : Nat} (member : page ∈ scheduler.held)
    (operation : WakerPage → WakerPage) :
    ∃ memory, scheduler.memory.update page operation = .ok memory ∧
      (memory.Accounts fun page => scheduler.held.count page) ∧
      ∀ other, memory.read other =
        if other = page then (scheduler.memory.read page).map operation
        else scheduler.memory.read other :=
  sound.accounts.update (List.count_pos_iff.mpr member) operation

omit sound in
/-- The scheduler refers to its pages. -/
theorem held_pages {page : Nat} (member : page ∈ scheduler.pages) : page ∈ scheduler.held :=
  List.mem_append_left _ (List.mem_append_left _ (List.mem_append_left _ member))

omit sound in
/-- A handle refers to the page of its task. -/
theorem held_handle {handle : Nat × Nat} (member : handle ∈ scheduler.handles) :
    handle.2 ∈ scheduler.held :=
  List.mem_append_left _ (List.mem_append_left _ (List.mem_append_right _
    (List.mem_map_of_mem member)))

omit sound in
/-- A waker refers to the page of its task. -/
theorem held_waker {ptr : Nat} (member : ptr ∈ scheduler.wakers) :
    (WakerRef.basePtr ptr).1 ∈ scheduler.held :=
  List.mem_append_left _ (List.mem_append_right _
    (List.mem_map_of_mem (f := fun ptr => (WakerRef.basePtr ptr).1) member))

omit sound in
/-- The waker of the task that runs refers to its page. -/
theorem held_current {ptr : Nat} (runs : scheduler.current = some ptr) :
    (WakerRef.basePtr ptr).1 ∈ scheduler.held := by
  refine List.mem_append_right _ ?_
  rw [runs]
  exact List.mem_singleton_self _

/-- The waker of the task that runs is made of the page that is visited and its slot. -/
theorem current_eq {visit : Visit} {ix : Nat} (visits : scheduler.visit = some visit)
    (running : visit.running = some ix) :
    ∃ page, scheduler.pages[visit.page]? = some page ∧ scheduler.current = some (page + ix) ∧
      WakerRef.basePtr (page + ix) = (page, ix) := by
  obtain ⟨-, inside, -, -, small, current⟩ := sound.visits visit visits
  have found : scheduler.pages[visit.page]? = some scheduler.pages[visit.page] :=
    List.getElem?_eq_getElem inside
  rw [running, found] at current
  refine ⟨_, found, current, WakerRef.basePtr_add ?_ (small ix (by rw [running]; rfl))⟩
  exact sound.aligned _ (held_pages (List.mem_of_getElem? found))

/-- A waker that can be used belongs to a page of the scheduler, as long as there is one. -/
theorem reached {ptr : Nat} (reaches : scheduler.reaches ptr = true)
    (opened : scheduler.closed = false) : (WakerRef.basePtr ptr).1 ∈ scheduler.pages := by
  rw [PagedScheduler.reaches, Bool.or_eq_true, decide_eq_true_eq, beq_iff_eq] at reaches
  obtain member | runs := reaches
  · exact sound.wakers opened ptr member
  · cases visits : scheduler.visit with
    | none =>
      rw [sound.idle visits] at runs
      cases runs
    | some visit =>
      obtain ⟨-, -, -, -, -, current⟩ := sound.visits visit visits
      cases running : visit.running with
      | none =>
        rw [running, runs] at current
        cases current
      | some ix =>
        obtain ⟨page, found, current, base⟩ := sound.current_eq visits running
        obtain rfl := Option.some.inj (runs.symm.trans current)
        rw [base]
        exact List.mem_of_getElem? found

omit sound in
/-- So does every waker that can be used. -/
theorem held_reached {ptr : Nat} (reaches : scheduler.reaches ptr = true) :
    (WakerRef.basePtr ptr).1 ∈ scheduler.held := by
  rw [PagedScheduler.reaches, Bool.or_eq_true, decide_eq_true_eq, beq_iff_eq] at reaches
  exact reaches.elim held_waker held_current

end Sound

/-! ## The actions -/

/-- What an action does: it goes on like the scheduler over a list of pages and keeps what holds
between the actions, it fails like that scheduler, or there is no memory left. -/
inductive Simulates (before : PagedScheduler) (action : PagedAction) : Prop where
  | goesOn (after : PagedScheduler) (steps : before.step action = .ok after) (sound : after.Sound)
      (follows : after.closed = false → before.closed = false ∧
        (∃ new, after.pages = before.pages ++ new) ∧
        (before.abstractAction action).elim (after.abstract = before.abstract)
          fun abstracted => before.abstract.step abstracted = .ok after.abstract)
  | fails (fault : SchedulerFault) (steps : before.step action = .error (.scheduler fault))
      (abstracted : SchedulerAction) (same : before.abstractAction action = some abstracted)
      (failing : before.abstract.step abstracted = .error fault)
  | exhausted (steps : before.step action = .error .outOfMemory)

variable {memory : PageMemory}

/-- The flags after an operation on the page of a key. -/
theorem abstract_onPage (sound : scheduler.Sound) {key page : Nat}
    (found : scheduler.pages[key / 64]? = some page) (operation : WakerPage → Nat → WakerPage)
    (reads : ∀ other, memory.read other =
      if other = page then (scheduler.memory.read page).map fun status => operation status (key % 64)
      else scheduler.memory.read other) :
    statuses memory scheduler.pages = onPage scheduler.abstract.pages key operation := by
  obtain ⟨status, live⟩ := sound.read_held (Sound.held_pages (List.mem_of_getElem? found))
  exact statuses_update sound.distinct found live reads

/-- Nothing happens. -/
theorem Simulates.idle (sound : scheduler.Sound) {action : PagedAction}
    (steps : scheduler.step action = .ok scheduler)
    (follows : scheduler.closed = false → (scheduler.abstractAction action).elim True
      fun abstracted => scheduler.abstract.step abstracted = .ok scheduler.abstract) :
    Simulates scheduler action := by
  refine .goesOn scheduler steps sound fun opened => ⟨opened, ⟨[], (List.append_nil _).symm⟩, ?_⟩
  have here := follows opened
  cases same : scheduler.abstractAction action with
  | none => rfl
  | some abstracted =>
    rw [same] at here
    exact here

/-- Between the page of a waker and its key. -/
theorem keyOf_page (ptr : Nat) (member : (WakerRef.basePtr ptr).1 ∈ scheduler.pages) :
    scheduler.pages[scheduler.keyOf ptr / 64]? = some (WakerRef.basePtr ptr).1 ∧
      scheduler.keyOf ptr % 64 = (WakerRef.basePtr ptr).2 := by
  have small := basePtr_lt ptr
  have index : scheduler.keyOf ptr / 64 = scheduler.pages.idxOf (WakerRef.basePtr ptr).1 := by
    rw [keyOf]
    omega
  refine ⟨?_, by rw [keyOf]; omega⟩
  rw [index, List.getElem?_eq_getElem (List.idxOf_lt_length_of_mem member),
    List.getElem_idxOf]

/-- A wake by reference sets the flag of the task, and the page is there to be written. -/
theorem wakeByRef_simulates (sound : scheduler.Sound) (ptr : Nat) :
    Simulates scheduler (.wakeByRef ptr) := by
  cases reaches : scheduler.reaches ptr with
  | false =>
    refine .idle sound ?_ fun _ => ?_
    · simp only [step, reaches, if_neg Bool.false_ne_true]
    · simp only [abstractAction, reaches, if_neg Bool.false_ne_true, Option.elim_none]
  | true =>
    obtain ⟨memory, updates, accounts, reads⟩ := sound.update_held (Sound.held_reached reaches)
      fun page => page.notify (WakerRef.basePtr ptr).2
    refine .goesOn { scheduler with memory } ?_ { sound with accounts } fun opened => ?_
    · simp only [step, reaches, if_true, WakerRef.wakeByRef, updates, lift_ok]
      rfl
    · refine ⟨opened, ⟨[], (List.append_nil _).symm⟩, ?_⟩
      obtain ⟨found, slot⟩ := keyOf_page ptr (sound.reached reaches opened)
      simp only [abstractAction, reaches, if_true, Option.elim_some, Scheduler.step]
      rw [← slot] at reads
      rw [Scheduler.wake, ← abstract_onPage sound found _ reads]
      rfl

/-- Without a waker there is one reference less to its page. -/
theorem count_without_waker {ptr : Nat} (member : ptr ∈ scheduler.wakers) (memory : PageMemory)
    (other : Nat) : scheduler.held.count other =
      Heap.plus (fun page => ({ scheduler with
        memory, wakers := scheduler.wakers.erase ptr } : PagedScheduler).held.count page)
        (WakerRef.basePtr ptr).1 other := by
  have split := count_map_erase (fun ptr => (WakerRef.basePtr ptr).1) member other
  simp only [Heap.plus, held, List.count_append]
  omega

/-- Without a handle there is one reference less to its page. -/
theorem count_without_handle {handle : Nat × Nat} (member : handle ∈ scheduler.handles)
    (memory : PageMemory) (slab : PinSlab Nat) (other : Nat) : scheduler.held.count other =
      Heap.plus (fun page => ({ scheduler with
        memory, slab, handles := scheduler.handles.erase handle } : PagedScheduler).held.count page)
        handle.2 other := by
  have split := count_map_erase Prod.snd member other
  simp only [Heap.plus, held, List.count_append]
  omega

/-- What is held after a reference has been given up was held before. -/
theorem Sound.aligned_without (sound : scheduler.Sound) {held' : List Nat} {object : Nat}
    (left : ∀ other, scheduler.held.count other =
      Heap.plus (fun page => held'.count page) object other) :
    ∀ page ∈ held', page % WAKER_PAGE_SIZE = 0 := by
  intro page member
  refine sound.aligned page (List.count_pos_iff.mp ?_)
  rw [left page]
  exact Nat.add_pos_left (List.count_pos_iff.mpr member) _

/-- A wake sets the flag and gives up the reference of the waker, the last one perhaps if the
scheduler is gone. -/
theorem wake_simulates (sound : scheduler.Sound) (ptr : Nat) : Simulates scheduler (.wake ptr) := by
  by_cases member : ptr ∈ scheduler.wakers
  · have reaches : scheduler.reaches ptr = true := by
      rw [PagedScheduler.reaches, decide_eq_true member, Bool.true_or]
    obtain ⟨middle, updates, accounts, reads⟩ := sound.update_held (Sound.held_waker member)
      fun page => page.notify (WakerRef.basePtr ptr).2
    have left := count_without_waker member
    obtain ⟨memory, releases, accounts, reads'⟩ :=
      (accounts.congr fun other => (left middle other).symm).release
    refine .goesOn { scheduler with memory, wakers := scheduler.wakers.erase ptr } ?_
      { sound with accounts, aligned := sound.aligned_without (left memory), wakers := ?_ }
      fun opened => ?_
    · simp only [step, if_pos member, WakerRef.wake, WakerRef.wakeByRef, updates, WakerRef.drop,
        WakerPageRef.drop, releases, lift_ok]
      rfl
    · exact fun opened other held => sound.wakers opened other (List.mem_of_mem_erase held)
    · refine ⟨opened, ⟨[], (List.append_nil _).symm⟩, ?_⟩
      obtain ⟨found, slot⟩ := keyOf_page ptr (sound.reached reaches opened)
      simp only [abstractAction, if_pos member, Option.elim_some, Scheduler.step]
      rw [← slot] at reads
      have same : statuses memory scheduler.pages = statuses middle scheduler.pages :=
        statuses_same fun page inside => reads' page (List.count_pos_iff.mpr (Sound.held_pages inside))
      rw [Scheduler.wake, ← abstract_onPage sound found _ reads, ← same]
      rfl
  · refine .idle sound ?_ fun _ => ?_
    · simp only [step, if_neg member]
    · simp only [abstractAction, if_neg member, Option.elim_none]

/-- A waker that is dropped gives up its reference and wakes nobody. -/
theorem dropWaker_simulates (sound : scheduler.Sound) (ptr : Nat) :
    Simulates scheduler (.dropWaker ptr) := by
  by_cases member : ptr ∈ scheduler.wakers
  · have left := count_without_waker member
    obtain ⟨memory, releases, accounts, reads⟩ :=
      (sound.accounts.congr fun other => (left scheduler.memory other).symm).release
    refine .goesOn { scheduler with memory, wakers := scheduler.wakers.erase ptr } ?_
      { sound with accounts, aligned := sound.aligned_without (left memory), wakers := ?_ }
      fun opened => ⟨opened, ⟨[], (List.append_nil _).symm⟩, ?_⟩
    · simp only [step, if_pos member, WakerRef.drop, WakerPageRef.drop, releases, lift_ok]
      rfl
    · exact fun opened other held => sound.wakers opened other (List.mem_of_mem_erase held)
    · have same : statuses memory scheduler.pages = statuses scheduler.memory scheduler.pages :=
        statuses_same fun page inside => reads page (List.count_pos_iff.mpr (Sound.held_pages inside))
      simp only [abstractAction, Option.elim_none, abstract, same]
  · exact .idle sound (by simp only [step, if_neg member]) fun _ => trivial

/-- A waker that is cloned takes one more reference, of which there are few enough to be
counted. -/
theorem cloneWaker_simulates (sound : scheduler.Sound) {ptr : Nat}
    (admissible : scheduler.Admissible (.cloneWaker ptr)) :
    Simulates scheduler (.cloneWaker ptr) := by
  cases reaches : scheduler.reaches ptr with
  | false =>
    refine .idle sound ?_ fun _ => trivial
    simp only [step, reaches, if_neg Bool.false_ne_true]
  | true =>
    have member := Sound.held_reached reaches
    obtain ⟨memory, retains, accounts, reads⟩ := sound.accounts.retain
      (List.count_pos_iff.mpr member) (Nat.lt_of_le_of_lt List.count_le_length admissible)
    have more : ∀ other, ({ scheduler with
        memory, wakers := ptr :: scheduler.wakers } : PagedScheduler).held.count other =
          Heap.plus (fun page => scheduler.held.count page) (WakerRef.basePtr ptr).1 other := by
      intro other
      simp only [Heap.plus, held, List.count_append, List.map_cons, List.count_cons, beq_iff_eq,
        eq_comm (a := (WakerRef.basePtr ptr).1)]
      omega
    refine .goesOn { scheduler with memory, wakers := ptr :: scheduler.wakers } ?_
      { sound with accounts := accounts.congr more, aligned := ?_, wakers := ?_ }
      fun opened => ⟨opened, ⟨[], (List.append_nil _).symm⟩, ?_⟩
    · simp only [step, reaches, if_true, WakerRef.clone, WakerPageRef.clone, retains, lift_ok]
      rfl
    · intro page held
      have counted := more page
      by_cases same : page = (WakerRef.basePtr ptr).1
      · exact sound.aligned page (same ▸ member)
      · rw [Heap.plus, if_neg same, Nat.add_zero] at counted
        exact sound.aligned page (List.count_pos_iff.mp (counted ▸ List.count_pos_iff.mpr held))
    · intro opened other held
      obtain rfl | held := List.mem_cons.mp held
      · exact sound.reached reaches opened
      · exact sound.wakers opened other held
    · simp only [abstractAction, Option.elim_none, abstract, statuses_same fun page _ => reads page]

/-- A handle that is held, and its key. -/
theorem handle_of_find {key : Nat} {handle : Nat × Nat}
    (found : scheduler.handles.find? (fun handle => handle.1 == key) = some handle) :
    handle ∈ scheduler.handles ∧ handle.1 = key :=
  ⟨List.mem_of_find?_eq_some found, by simpa using List.find?_some found⟩

/-- A handle that is dropped sets the flag of its task first and gives up its reference then. -/
theorem drop_simulates (sound : scheduler.Sound) (key : Nat) :
    Simulates scheduler (.drop key) := by
  have named := mem_handles_iff scheduler key
  cases found : scheduler.handles.find? fun handle => handle.1 == key with
  | none =>
    have absent : key ∉ scheduler.abstract.handles := fun member => named.mp member found
    refine .idle sound ?_ fun _ => ?_
    · simp only [step, drop, found]
    · simp only [abstractAction, Option.elim_some, Scheduler.step]
      rw [Scheduler.drop, if_neg absent]
  | some handle =>
    have present : key ∈ scheduler.abstract.handles := named.mpr (by simp [found])
    obtain ⟨member, rfl⟩ := handle_of_find found
    obtain ⟨middle, updates, accounts, reads⟩ := sound.update_held (Sound.held_handle member)
      fun page => page.markDropped (handle.1 % 64)
    have left := fun memory => count_without_handle member memory scheduler.slab
    obtain ⟨memory, releases, accounts, reads'⟩ :=
      (accounts.congr fun other => (left middle other).symm).release
    refine .goesOn { scheduler with memory, handles := scheduler.handles.erase handle } ?_
      { sound with accounts, aligned := sound.aligned_without (left memory), chunks := ?_ }
      fun opened => ⟨opened, ⟨[], (List.append_nil _).symm⟩, ?_⟩
    · simp only [step, drop, found, updates, WakerPageRef.drop, releases, lift_ok, bind, Except.bind]
    · exact fun opened other held => sound.chunks opened other (List.mem_of_mem_erase held)
    · have same : statuses memory scheduler.pages = statuses middle scheduler.pages :=
        statuses_same fun page inside => reads' page (List.count_pos_iff.mpr (Sound.held_pages inside))
      simp only [abstractAction, Option.elim_some, Scheduler.step]
      rw [Scheduler.drop, if_pos present,
        ← abstract_onPage sound (sound.chunks opened handle member) _ reads, ← same]
      simp only [abstract, map_erase_find found]

/-- A task that is taken out leaves its slot without a flag, and its handle gives up the
reference. -/
theorem take_simulates (sound : scheduler.Sound) (key : Nat) :
    Simulates scheduler (.take key) := by
  cases closed : scheduler.closed with
  | true =>
    refine .idle sound ?_ fun opened => ?_
    · simp only [step, closed, if_true]
    · rw [closed] at opened
      cases opened
  | false =>
  have named := mem_handles_iff scheduler key
  cases found : scheduler.handles.find? fun handle => handle.1 == key with
  | none =>
    have absent : key ∉ scheduler.abstract.handles := fun member => named.mp member found
    refine .idle sound ?_ fun _ => ?_
    · simp only [step, closed, if_neg Bool.false_ne_true, take, found]
    · simp only [abstractAction, Option.elim_some, Scheduler.step]
      rw [Scheduler.take, if_neg absent]
  | some handle =>
    have present : key ∈ scheduler.abstract.handles := named.mpr (by simp [found])
    obtain ⟨member, rfl⟩ := handle_of_find found
    have chunk := sound.chunks closed handle member
    obtain ⟨status, live⟩ := sound.read_held (Sound.held_handle member)
    have inside : ¬ scheduler.abstract.pages.length ≤ handle.1 / 64 := by
      obtain ⟨below, -⟩ := List.getElem?_eq_some_iff.mp chunk
      exact Nat.not_le_of_lt ((List.length_map _).symm ▸ below)
    have flagged : flag WakerPage.dropped scheduler.abstract.pages handle.1 =
        status.dropped.getLsbD (handle.1 % 64) := by
      rw [flag, abstract, getElem?_statuses chunk live, Option.any_some]
    have got : getPage scheduler.pages handle.1 = .ok handle.2 := by
      rw [getPage, chunk]
    cases dropped : status.dropped.getLsbD (handle.1 % 64) with
    | true =>
      refine .fails .takenAfterDrop ?_ (.take handle.1) rfl ?_
      · simp only [step, closed, if_neg Bool.false_ne_true, take, found, got, live, dropped, if_true,
          bind, Except.bind]
      · rw [Scheduler.step, Scheduler.take, if_pos present, if_neg inside, flagged, dropped,
          if_pos rfl]
    | false =>
      obtain ⟨middle, updates, accounts, reads⟩ := sound.update_held (Sound.held_handle member)
        fun page => page.clear (handle.1 % 64)
      have left := fun memory => count_without_handle member memory (scheduler.slab.remove handle.1)
      obtain ⟨memory, releases, accounts, reads'⟩ :=
        (accounts.congr fun other => (left middle other).symm).release
      cases occupied : scheduler.slab.get handle.1 with
      | none =>
        refine .fails .takenTwice ?_ (.take handle.1) rfl ?_
        · simp only [step, closed, if_neg Bool.false_ne_true, take, found, got, live, dropped,
            updates, lift_ok, occupied, bind, Except.bind]
        · have abstractOccupied : scheduler.abstract.slab.get handle.1 = none := occupied
          rw [Scheduler.step, Scheduler.take, if_pos present, if_neg inside, flagged, dropped,
            if_neg Bool.false_ne_true, abstractOccupied]
      | some task =>
        refine .goesOn { scheduler with
            memory
            slab := scheduler.slab.remove handle.1
            handles := scheduler.handles.erase handle } ?_
          { sound with accounts, aligned := sound.aligned_without (left memory), chunks := ?_ }
          fun opened => ⟨closed, ⟨[], (List.append_nil _).symm⟩, ?_⟩
        · simp only [step, closed, if_neg Bool.false_ne_true, take, found, got, live, dropped,
            updates, lift_ok, occupied, WakerPageRef.drop, releases, bind, Except.bind]
        · exact fun opened other held => sound.chunks opened other (List.mem_of_mem_erase held)
        · have same : statuses memory scheduler.pages = statuses middle scheduler.pages :=
            statuses_same fun page inside =>
              reads' page (List.count_pos_iff.mpr (Sound.held_pages inside))
          have abstractOccupied : scheduler.abstract.slab.get handle.1 = some task := occupied
          simp only [abstractAction, Option.elim_some, Scheduler.step]
          rw [Scheduler.take, if_pos present, if_neg inside, flagged, dropped,
            if_neg Bool.false_ne_true, abstractOccupied, ← abstract_onPage sound chunk _ reads, ← same]
          simp only [abstract, map_erase_find found]

/-- No task runs, so that there is no waker of one. -/
theorem Sound.resting (sound : scheduler.Sound)
    (still : ∀ visit, scheduler.visit = some visit → visit.running = none) :
    scheduler.current = none := by
  cases visits : scheduler.visit with
  | none => exact sound.idle visits
  | some visit =>
    obtain ⟨-, -, -, -, -, current⟩ := sound.visits visit visits
    rw [current, still visit visits]
    rfl

/-- Coming to a page or to the end of the call. -/
theorem enter_simulates (sound : scheduler.Sound) {action : PagedAction}
    {abstracted : SchedulerAction} {page pages : Nat} (opened : scheduler.closed = false)
    (still : ∀ visit, scheduler.visit = some visit → visit.running = none)
    (steps : scheduler.step action = scheduler.enter page pages)
    (same : scheduler.abstractAction action = some abstracted)
    (enters : scheduler.abstract.step abstracted = scheduler.abstract.enter page pages) :
    Simulates scheduler action := by
  have resting := sound.resting still
  by_cases inside : page < pages
  · cases found : scheduler.pages[page]? with
    | none =>
      refine .fails .noPage ?_ abstracted same ?_
      · rw [steps, enter, if_pos inside, found]
      · rw [enters, Scheduler.enter, if_pos inside, abstract, statuses, List.getElem?_map, found]
        rfl
    | some address =>
      obtain ⟨status, live⟩ := sound.read_held (Sound.held_pages (List.mem_of_getElem? found))
      obtain ⟨memory, updates, accounts, reads⟩ := sound.update_held
        (Sound.held_pages (List.mem_of_getElem? found))
        fun _ => { status with notified := 0, dropped := 0 }
      refine .goesOn { scheduler with
          memory
          visit := some {
            page, pages
            notified := bits status.takeNotified.1
            dropped := bits status.dropped
            running := none } } ?_ { sound with accounts, idle := ?_, visits := ?_ } fun _ => ?_
      · rw [steps, enter, if_pos inside, found]
        simp only [live, WakerPage.takeNotified, WakerPage.takeDropped, updates, lift_ok, bind,
          Except.bind]
      · intro none
        cases none
      · intro visit visits
        cases visits
        obtain ⟨below, -⟩ := List.getElem?_eq_some_iff.mp found
        exact ⟨opened, below, fun ix member => BitVec.lt_of_getLsbD (mem_bits.mp member),
          fun ix member => BitVec.lt_of_getLsbD (mem_bits.mp member), fun ix => nofun, resting⟩
      · refine ⟨opened, ⟨[], (List.append_nil _).symm⟩, ?_⟩
        rw [same, Option.elim_some, enters, Scheduler.enter, if_pos inside]
        have abstractFound : scheduler.abstract.pages[page]? = some status :=
          getElem?_statuses found live
        rw [abstractFound]
        have written := statuses_update sound.distinct found live reads
        have : Inhabited WakerPage := ⟨.default⟩
        rw [List.modify_eq_set] at written
        rw [abstract, abstract, written]
        rfl
  · refine .goesOn { scheduler with visit := none } ?_
      { sound with idle := fun _ => resting, visits := fun _ => nofun } fun _ => ?_
    · rw [steps, enter, if_neg inside]
    · refine ⟨opened, ⟨[], (List.append_nil _).symm⟩, ?_⟩
      rw [same, Option.elim_some, enters, Scheduler.enter, if_neg inside]
      rfl

/-- A call to `poll` begins with the first page. -/
theorem poll_simulates (sound : scheduler.Sound) : Simulates scheduler .poll := by
  cases closed : scheduler.closed with
  | true =>
    refine .idle sound ?_ fun opened => ?_
    · simp only [step, closed, if_true]
    · rw [closed] at opened
      cases opened
  | false =>
    cases visits : scheduler.visit with
    | none =>
      have steps : scheduler.step .poll = scheduler.enter 0 scheduler.pages.length := by
        simp only [step, closed, if_neg Bool.false_ne_true, visits]
      refine enter_simulates sound closed ?_ steps rfl ?_
      · rw [visits]
        exact fun _ => nofun
      · simp only [Scheduler.step, abstract, visits, statuses, List.length_map]
    | some visit =>
      refine .idle sound ?_ fun _ => ?_
      · simp only [step, closed, if_neg Bool.false_ne_true, visits]
      · simp only [abstractAction, Option.elim_some, Scheduler.step, abstract, visits]

/-- The page that is visited. -/
theorem Sound.visited (sound : scheduler.Sound) {visit : Visit}
    (visits : scheduler.visit = some visit) :
    ∃ page, scheduler.pages[visit.page]? = some page ∧
      getPage scheduler.pages (visit.page * 64) = .ok page ∧ page ∈ scheduler.held := by
  obtain ⟨-, inside, -⟩ := sound.visits visit visits
  have found : scheduler.pages[visit.page]? = some scheduler.pages[visit.page] :=
    List.getElem?_eq_getElem inside
  refine ⟨_, found, ?_, Sound.held_pages (List.mem_of_getElem? found)⟩
  rw [getPage, Nat.mul_div_cancel _ (by decide : 0 < 64), found]

/-- The page and the slot of a key of the page that is visited. -/
theorem visit_key (visit : Visit) {ix : Nat} (small : ix < 64) :
    visit.key ix / 64 = visit.page ∧ visit.key ix % 64 = ix := by
  unfold Visit.key
  omega

section Advance

variable {visit : Visit} (visits : scheduler.visit = some visit) (still : visit.running = none)

include visits still

/-- A call that goes on is a step while a page is visited. -/
theorem step_advance : scheduler.step .advance = scheduler.advance visit := by
  simp only [step, visits, still, Option.isSome_none, if_neg Bool.false_ne_true]

/-- So it is over the list of pages. -/
theorem abstract_step_advance :
    scheduler.abstract.step .advance = scheduler.abstract.advance visit := by
  have abstractVisits : scheduler.abstract.visit = some visit := visits
  simp only [Scheduler.step, abstractVisits, still, Option.isSome_none, if_neg Bool.false_ne_true]

/-- A task that has been notified is polled with a waker of its own. -/
theorem advance_notified (sound : scheduler.Sound) (admissible : scheduler.Admissible .advance)
    {ix : Nat} {rest : List Nat} (notified : visit.notified = ix :: rest) :
    Simulates scheduler .advance := by
  have steps := step_advance visits still
  have abstractSteps := abstract_step_advance visits still
  have resting := sound.resting fun other others => by
    cases visits.symm.trans others
    exact still
  obtain ⟨opened, inside, notifiedSmall, droppedSmall, -, -⟩ := sound.visits visit visits
  obtain ⟨page, found, got, member⟩ := sound.visited visits
  have small := notifiedSmall ix (notified ▸ List.mem_cons_self)
  obtain ⟨memory, retains, accounts, reads⟩ := sound.accounts.retain
    (List.count_pos_iff.mpr member) (Nat.lt_of_le_of_lt List.count_le_length admissible)
  have base : WakerRef.basePtr (page + ix) = (page, ix) :=
    WakerRef.basePtr_add (sound.aligned page member) small
  cases occupied : scheduler.slab.get (visit.key ix) with
  | none =>
    refine .fails .emptySlot ?_ .advance rfl ?_
    · simp only [steps, advance, notified, got, WakerPageRef.intoRawWakerRef, WakerPageRef.clone,
        retains, lift_ok, occupied, bind, Except.bind]
    · have abstractOccupied : scheduler.abstract.slab.get (visit.key ix) = none := occupied
      rw [abstractSteps, Scheduler.advance, notified]
      simp only [abstractOccupied]
  | some task =>
    have more : ∀ other, ({ scheduler with
        memory
        current := some (page + ix)
        visit := some { visit with notified := rest, running := some ix } } :
          PagedScheduler).held.count other =
          Heap.plus (fun page => scheduler.held.count page) page other := by
      intro other
      simp only [Heap.plus, held, List.count_append, resting, Option.toList_none, List.map_nil,
        List.count_nil, Option.toList_some, List.map_cons, base, List.count_cons, beq_iff_eq,
        eq_comm (a := page)]
      omega
    refine .goesOn { scheduler with
        memory
        current := some (page + ix)
        visit := some { visit with notified := rest, running := some ix } } ?_
      { sound with accounts := accounts.congr more, aligned := ?_, idle := ?_, visits := ?_ }
      fun _ => ⟨opened, ⟨[], (List.append_nil _).symm⟩, ?_⟩
    · simp only [steps, advance, notified, got, WakerPageRef.intoRawWakerRef, WakerPageRef.clone,
        retains, lift_ok, occupied, bind, Except.bind]
    · intro other held
      have counted := more other
      by_cases same : other = page
      · exact sound.aligned other (same ▸ member)
      · rw [Heap.plus, if_neg same, Nat.add_zero] at counted
        exact sound.aligned other (List.count_pos_iff.mp (counted ▸ List.count_pos_iff.mpr held))
    · intro none
      cases none
    · intro other others
      cases others
      refine ⟨opened, inside, fun later member => ?_, droppedSmall, fun other same => ?_, ?_⟩
      · exact notifiedSmall later (notified ▸ List.mem_cons_of_mem _ member)
      · cases same
        exact small
      · simp only [Option.bind_some, found, Option.map_some]
    · simp only [abstractAction, Option.elim_some]
      have abstractOccupied : scheduler.abstract.slab.get (visit.key ix) = some task := occupied
      rw [abstractSteps, Scheduler.advance, notified]
      simp only [abstractOccupied]
      simp only [abstract, statuses_same fun page _ => reads page]

/-- A task whose handle has been dropped is removed from its slot. -/
theorem advance_dropped (sound : scheduler.Sound) (notified : visit.notified = []) {ix : Nat}
    {rest : List Nat} (dropped : visit.dropped = ix :: rest) : Simulates scheduler .advance := by
  have steps := step_advance visits still
  have abstractSteps := abstract_step_advance visits still
  have resting := sound.resting fun other others => by
    cases visits.symm.trans others
    exact still
  obtain ⟨opened, inside, notifiedSmall, droppedSmall, -, -⟩ := sound.visits visit visits
  obtain ⟨page, found, got, member⟩ := sound.visited visits
  have small := droppedSmall ix (dropped ▸ List.mem_cons_self)
  obtain ⟨index, slot⟩ := visit_key visit small
  have laterDropped : ∀ other ∈ rest, other < 64 := fun other member =>
    droppedSmall other (dropped ▸ List.mem_cons_of_mem _ member)
  have visits' (memory : PageMemory) (slab : PinSlab Nat) : ∀ other,
      some { visit with dropped := rest } = some other →
      scheduler.closed = false ∧ other.page < scheduler.pages.length ∧
      (∀ ix ∈ other.notified, ix < 64) ∧ (∀ ix ∈ other.dropped, ix < 64) ∧
      (∀ ix ∈ other.running, ix < 64) ∧ scheduler.current = other.running.bind fun ix =>
        (scheduler.pages[other.page]?).map fun page => page + ix := by
    intro other same
    cases same
    refine ⟨opened, inside, notifiedSmall, laterDropped, ?_, ?_⟩
    · rw [still]
      intro other none
      cases none
    · rw [still]
      exact resting
  by_cases first : ix = 0
  · subst first
    refine .goesOn { scheduler with visit := some { visit with dropped := rest } } ?_
      { sound with idle := fun _ => resting, visits := visits' scheduler.memory scheduler.slab }
      fun _ => ⟨opened, ⟨[], (List.append_nil _).symm⟩, ?_⟩
    · rw [steps, advance, notified, dropped]
      rfl
    · simp only [abstractAction, Option.elim_some]
      rw [abstractSteps, Scheduler.advance, notified, dropped]
      rfl
  · obtain ⟨memory, updates, accounts, reads⟩ := sound.update_held member
      fun page => page.clear ix
    refine .goesOn { scheduler with
        memory
        slab := scheduler.slab.remove (visit.key ix)
        visit := some { visit with dropped := rest } } ?_
      { sound with accounts, idle := fun _ => resting, visits := visits' memory scheduler.slab }
      fun _ => ⟨opened, ⟨[], (List.append_nil _).symm⟩, ?_⟩
    · simp only [steps, advance, notified, dropped, ne_eq, first, not_false_eq_true, if_true, got,
        updates, lift_ok, bind, Except.bind]
    · simp only [abstractAction, Option.elim_some]
      rw [← index] at found
      have written := abstract_onPage sound found .clear (slot.symm ▸ reads)
      rw [abstractSteps, Scheduler.advance, notified, dropped]
      simp only [ne_eq, first, not_false_eq_true, if_true]
      rw [← written]
      rfl

end Advance

/-- A call that goes on takes the next slot that was notified, or drops a task, or goes to the
next page, as it does over the list of pages. For a task that will run the page is referred to
once more. -/
theorem advance_simulates (sound : scheduler.Sound)
    (admissible : scheduler.Admissible .advance) : Simulates scheduler .advance := by
  cases visits : scheduler.visit with
  | none =>
    refine .idle sound ?_ fun _ => ?_
    · simp only [step, visits]
    · simp only [abstractAction, Option.elim_some, Scheduler.step, abstract, visits]
  | some visit =>
  have abstractVisits : scheduler.abstract.visit = some visit := visits
  cases still : visit.running with
  | some ix =>
    refine .idle sound ?_ fun _ => ?_
    · simp only [step, visits, still, Option.isSome_some, if_true]
    · simp only [abstractAction, Option.elim_some, Scheduler.step, abstractVisits, still,
        Option.isSome_some, if_true]
  | none =>
  cases notified : visit.notified with
  | cons ix rest => exact advance_notified visits still sound admissible notified
  | nil =>
  cases dropped : visit.dropped with
  | cons ix rest => exact advance_dropped visits still sound notified dropped
  | nil =>
    have enters : scheduler.step .advance = scheduler.enter (visit.page + 1) visit.pages := by
      rw [step_advance visits still, advance, notified, dropped]
    obtain ⟨opened, -⟩ := sound.visits visit visits
    refine enter_simulates sound opened ?_ enters rfl ?_
    · intro other others
      cases visits.symm.trans others
      exact still
    · rw [abstract_step_advance visits still, Scheduler.advance, notified, dropped]

/-- A task that returns gives up the waker that it ran with. -/
theorem returned_simulates (sound : scheduler.Sound) (ready : Bool) :
    Simulates scheduler (.returned ready) := by
  cases visits : scheduler.visit with
  | none =>
    refine .idle sound ?_ fun _ => ?_
    · simp only [step, visits]
    · simp only [abstractAction, Option.elim_some, Scheduler.step, abstract, visits]
  | some visit =>
  have abstractVisits : scheduler.abstract.visit = some visit := visits
  cases running : visit.running with
  | none =>
    refine .idle sound ?_ fun _ => ?_
    · simp only [step, visits, running]
    · simp only [abstractAction, Option.elim_some, Scheduler.step, abstractVisits, running]
  | some ix =>
    obtain ⟨opened, inside, notifiedSmall, droppedSmall, small, -⟩ := sound.visits visit visits
    obtain ⟨page, found, got, member⟩ := sound.visited visits
    obtain ⟨page', found', current, base⟩ := sound.current_eq visits running
    obtain rfl := Option.some.inj (found.symm.trans found')
    obtain ⟨index, slot⟩ := visit_key visit (small ix (by rw [running]; rfl))
    obtain ⟨middle, updates, accounts, reads⟩ := sound.update_held member
      fun status => if ready then status.markCompleted ix else status
    have left (memory : PageMemory) : ∀ other, scheduler.held.count other =
        Heap.plus (fun page => ({ scheduler with
          memory, current := none, visit := some { visit with running := none } } :
            PagedScheduler).held.count page) page other := by
      intro other
      simp only [Heap.plus, held, List.count_append, current, Option.toList_some, List.map_cons, base,
        List.map_nil, List.count_cons, List.count_nil, Option.toList_none, beq_iff_eq,
        eq_comm (a := page)]
      omega
    obtain ⟨memory, releases, accounts, reads'⟩ :=
      (accounts.congr fun other => (left middle other).symm).release
    refine .goesOn { scheduler with
        memory, current := none, visit := some { visit with running := none } } ?_
      { sound with
        accounts, aligned := sound.aligned_without (left memory), idle := fun _ => rfl,
        visits := ?_ }
      fun _ => ⟨opened, ⟨[], (List.append_nil _).symm⟩, ?_⟩
    · simp only [step, visits, running, current, return_, got, updates, lift_ok, WakerRef.drop, base,
        WakerPageRef.drop, releases, bind, Except.bind]
    · intro other others
      cases others
      refine ⟨opened, inside, notifiedSmall, droppedSmall, ?_, rfl⟩
      intro other none
      cases none
    · have same : statuses memory scheduler.pages = statuses middle scheduler.pages :=
        statuses_same fun page inside => reads' page (List.count_pos_iff.mpr (Sound.held_pages inside))
      simp only [abstractAction, Option.elim_some, Scheduler.step, abstractVisits, running]
      cases ready with
      | false =>
        have unchanged : statuses middle scheduler.pages = statuses scheduler.memory scheduler.pages := by
          refine statuses_same fun other _ => ?_
          rw [reads other]
          by_cases here : other = page
          · subst here
            rw [if_pos rfl]
            exact Option.map_id'
          · rw [if_neg here]
        rw [if_neg Bool.false_ne_true]
        simp only [abstract, same, unchanged]
      | true =>
        rw [← index] at found
        have written := abstract_onPage sound found .markCompleted (slot.symm ▸ reads)
        rw [if_pos rfl, ← written, ← same]
        rfl

/-- A scheduler that is dropped gives up its pages, and those that wakers or handles refer to
stay. -/
theorem shutdown_simulates (sound : scheduler.Sound) : Simulates scheduler .shutdown := by
  cases stays : scheduler.closed || scheduler.visit.isSome with
  | true =>
    refine .idle sound ?_ fun _ => trivial
    simp only [step, stays, if_true]
  | false =>
    obtain ⟨-, idle⟩ := Bool.or_eq_false_iff.mp stays
    have unvisited : scheduler.visit = none :=
      Option.isNone_iff_eq_none.mp (Option.isSome_eq_false_iff.mp idle)
    have left (memory : PageMemory) : ∀ other, scheduler.held.count other =
        ({ scheduler with memory, slab := .new, pages := [], closed := true } :
          PagedScheduler).held.count other + scheduler.pages.count other := by
      intro other
      simp only [held, List.count_append, List.count_nil]
      omega
    obtain ⟨memory, releases, accounts, -⟩ :=
      (sound.accounts.congr fun other => (left scheduler.memory other).symm).releaseAll
    refine .goesOn { scheduler with memory, slab := .new, pages := [], closed := true } ?_
      { sound with
        accounts, aligned := ?_, distinct := List.nodup_nil, chunks := nofun, wakers := nofun,
        visits := ?_ }
      nofun
    · simp only [step, stays, if_neg Bool.false_ne_true, releases, lift_ok, bind, Except.bind]
    · intro page held
      refine sound.aligned page (List.count_pos_iff.mp ?_)
      rw [left memory page]
      exact Nat.add_pos_left (List.count_pos_iff.mpr held) _
    · intro visit visits
      cases unvisited.symm.trans visits

/-! ### Insertion -/

/-- Addresses of pages that are not in use. -/
structure Unused (scheduler : PagedScheduler) (new : List Nat) : Prop where
  distinct : new.Nodup
  aligned : ∀ page ∈ new, page % WAKER_PAGE_SIZE = 0
  absent : ∀ page ∈ new, scheduler.memory.lookup page = none

/-- The scheduler with a new task, its handle and the pages that it needed. -/
def grown (scheduler : PagedScheduler) (slab : PinSlab Nat) (memory : PageMemory) (new : List Nat)
    (key page : Nat) : PagedScheduler :=
  { scheduler with
    slab, memory
    pages := scheduler.pages ++ new
    inserted := scheduler.inserted + 1
    handles := (key, page) :: scheduler.handles }

variable {new : List Nat} {slab : PinSlab Nat} {key page : Nat}

/-- What the allocator gives out is not in use, and so is every part of it. -/
theorem Admissible.unused {addresses : List Nat}
    (admissible : scheduler.Admissible (.insert addresses)) (count : Nat) :
    Unused scheduler (addresses.take count) := by
  obtain ⟨distinct, fresh, -⟩ := admissible
  have among : ∀ page ∈ addresses.take count, page ∈ addresses := fun page => List.mem_of_mem_take
  exact ⟨distinct.sublist (List.take_sublist _ _), fun page member => (fresh page (among page member)).1,
    fun page member => (fresh page (among page member)).2⟩

/-- A page of the scheduler is in use. -/
theorem Unused.apart (unused : Unused scheduler new) (sound : scheduler.Sound) :
    ∀ page ∈ scheduler.pages, page ∉ new := by
  intro page member isNew
  obtain ⟨status, live⟩ := sound.read_held (Sound.held_pages member)
  rw [Heap.read, unused.absent page isNew] at live
  cases live

/-- The new pages and the handle are all that is held in addition. -/
theorem count_held_grown (other : Nat) :
    (scheduler.grown slab memory new key page).held.count other =
      Heap.plus (fun page => scheduler.held.count page + new.count page) page other := by
  simp only [grown, Heap.plus, held, List.count_append, List.map_cons, List.count_cons, beq_iff_eq,
    eq_comm (a := page)]
  omega

/-- The pages are allocated, the flags of the task are set on its page, and the page is
referred to once more.

Proof: the three changes of the memory follow one another, and each one has its own rule for
what is accounted for and what is read afterwards. -/
theorem Unused.write (unused : Unused scheduler new) (sound : scheduler.Sound)
    (found : (scheduler.pages ++ new)[key / 64]? = some page)
    (bounded : scheduler.held.length + new.length < MAX_REFCOUNT) :
    ∃ middle memory,
      (allocateAll new scheduler.memory).update page (fun status => status.initialize_ (key % 64)) =
        .ok middle ∧
      WakerPageRef.clone page middle = .ok memory ∧
      (memory.Accounts fun other => (scheduler.grown slab memory new key page).held.count other) ∧
      statuses memory (scheduler.pages ++ new) =
        onPage (scheduler.abstract.pages ++ List.replicate new.length WakerPage.default) key
          .initialize_ := by
  obtain ⟨accounts, readsNew, readsOld⟩ := allocateAll_accounts sound.accounts unused.distinct
    unused.absent
  have referenced : 0 < scheduler.held.count page + new.count page := by
    obtain old | isNew := List.mem_append.mp (List.mem_of_getElem? found)
    · exact Nat.add_pos_left (List.count_pos_iff.mpr (Sound.held_pages old)) _
    · exact Nat.add_pos_right _ (List.count_pos_iff.mpr isNew)
  obtain ⟨status, live⟩ := accounts.read_live referenced
  obtain ⟨middle, updates, accounts, reads⟩ := accounts.update referenced
    fun status => status.initialize_ (key % 64)
  have below : scheduler.held.count page + new.count page < MAX_REFCOUNT := by
    have held : scheduler.held.count page ≤ scheduler.held.length := List.count_le_length
    have counted : new.count page ≤ new.length := List.count_le_length
    omega
  obtain ⟨memory, retains, accounts, reads'⟩ := accounts.retain referenced below
  refine ⟨middle, memory, updates, retains, accounts.congr count_held_grown, ?_⟩
  have distinct : (scheduler.pages ++ new).Nodup :=
    List.nodup_append'.mpr ⟨sound.distinct, unused.distinct, unused.apart sound⟩
  have allocated : statuses (allocateAll new scheduler.memory) (scheduler.pages ++ new) =
      statuses scheduler.memory scheduler.pages ++ List.replicate new.length WakerPage.default :=
    statuses_append (fun page member => readsOld page (unused.apart sound page member)) readsNew
  calc statuses memory (scheduler.pages ++ new)
      = statuses middle (scheduler.pages ++ new) := statuses_same fun page _ => reads' page
    _ = _ := statuses_update distinct found live reads
    _ = _ := by rw [allocated]; rfl

/-- What holds between the actions holds after an insertion. -/
theorem Sound.grown (sound : scheduler.Sound) (unused : Unused scheduler new)
    (opened : scheduler.closed = false) (found : (scheduler.pages ++ new)[key / 64]? = some page)
    (accounts : memory.Accounts fun other =>
      (scheduler.grown slab memory new key page).held.count other) :
    (scheduler.grown slab memory new key page).Sound where
  accounts := accounts
  aligned other held := by
    have counted := List.count_pos_iff.mpr held
    rw [count_held_grown] at counted
    by_cases old : other ∈ scheduler.held
    · exact sound.aligned other old
    · refine unused.aligned other (List.count_pos_iff.mp ?_)
      by_cases same : other = page
      · -- The page of the task is not an old one.
        subst same
        obtain member | isNew := List.mem_append.mp (List.mem_of_getElem? found)
        · exact absurd (Sound.held_pages member) old
        · exact List.count_pos_iff.mpr isNew
      · rw [Heap.plus, if_neg same, List.count_eq_zero.mpr old, Nat.zero_add, Nat.add_zero] at counted
        exact counted
  distinct := List.nodup_append'.mpr ⟨sound.distinct, unused.distinct, unused.apart sound⟩
  chunks _ handle member := by
    obtain rfl | member := List.mem_cons.mp member
    · exact found
    · have chunk := sound.chunks opened handle member
      obtain ⟨below, -⟩ := List.getElem?_eq_some_iff.mp chunk
      exact (List.getElem?_append_left below).trans chunk
  wakers opened ptr member := List.mem_append_left _ (sound.wakers opened ptr member)
  idle := sound.idle
  visits visit visits := by
    obtain ⟨-, inside, notifiedSmall, droppedSmall, small, current⟩ := sound.visits visit visits
    refine ⟨opened, ?_, notifiedSmall, droppedSmall, small, ?_⟩
    · rw [PagedScheduler.grown, List.length_append]
      exact Nat.lt_add_right _ inside
    · rw [PagedScheduler.grown, List.getElem?_append_left inside]
      exact current

/-- An insertion is one over the list of pages, unless there are too few new pages. -/
theorem insert_simulates (sound : scheduler.Sound) {addresses : List Nat}
    (admissible : scheduler.Admissible (.insert addresses)) :
    Simulates scheduler (.insert addresses) := by
  cases closed : scheduler.closed with
  | true =>
    refine .idle sound ?_ fun opened => ?_
    · simp only [step, closed, if_true]
    · rw [closed] at opened
      cases opened
  | false =>
  have abstractLength : scheduler.abstract.pages.length = scheduler.pages.length := List.length_map _
  cases inserts : scheduler.slab.insert scheduler.inserted with
  | none =>
    have abstractInserts : scheduler.abstract.slab.insert scheduler.abstract.inserted = none := inserts
    refine .fails .occupiedEntry ?_ .insert rfl ?_
    · simp only [step, closed, if_neg Bool.false_ne_true, insert, inserts]
    · simp only [Scheduler.step, Scheduler.insert, abstractInserts]
  | some entry =>
  obtain ⟨key, slab⟩ := entry
  by_cases short : addresses.length < key / 64 + 1 - scheduler.pages.length
  · refine .exhausted ?_
    simp only [step, closed, if_neg Bool.false_ne_true, insert, inserts, if_pos short]
  have unused := admissible.unused (key / 64 + 1 - scheduler.pages.length)
  have enough : (addresses.take (key / 64 + 1 - scheduler.pages.length)).length =
      key / 64 + 1 - scheduler.pages.length := by
    rw [List.length_take]
    omega
  generalize added : addresses.take (key / 64 + 1 - scheduler.pages.length) = new at unused enough
  have inside : key / 64 < (scheduler.pages ++ new).length := by
    rw [List.length_append, enough]
    omega
  obtain ⟨page, found⟩ : ∃ page, (scheduler.pages ++ new)[key / 64]? = some page :=
    ⟨_, List.getElem?_eq_getElem inside⟩
  have bounded : scheduler.held.length + new.length < MAX_REFCOUNT := by
    have few := admissible.2.2
    omega
  obtain ⟨middle, memory, updates, retains, accounts, flags⟩ :=
    @Unused.write scheduler new slab key page unused sound found bounded
  refine .goesOn (scheduler.grown slab memory new key page) ?_
    (sound.grown unused closed found accounts) fun _ => ⟨closed, ⟨new, rfl⟩, ?_⟩
  · have got : getPage (scheduler.pages ++ new) key = .ok page := by
      rw [getPage, found]
    simp only [step, closed, if_neg Bool.false_ne_true, insert, inserts, if_neg short, added, got,
      updates, lift_ok, retains, grown, bind, Except.bind]
  · have abstractInserts : scheduler.abstract.slab.insert scheduler.abstract.inserted =
      some (key, slab) := inserts
    rw [enough, ← abstractLength] at flags
    simp only [abstractAction, Option.elim_some, Scheduler.step, Scheduler.insert, abstractInserts]
    simp only [grown, abstract, List.map_cons] at flags ⊢
    rw [flags]

/-- Every action is simulated. -/
theorem step_simulates (sound : scheduler.Sound) {action : PagedAction}
    (admissible : scheduler.Admissible action) : Simulates scheduler action := by
  cases action with
  | insert addresses => exact insert_simulates sound admissible
  | drop key => exact drop_simulates sound key
  | take key => exact take_simulates sound key
  | poll => exact poll_simulates sound
  | advance => exact advance_simulates sound admissible
  | returned ready => exact returned_simulates sound ready
  | cloneWaker ptr => exact cloneWaker_simulates sound admissible
  | wake ptr => exact wake_simulates sound ptr
  | wakeByRef ptr => exact wakeByRef_simulates sound ptr
  | dropWaker ptr => exact dropWaker_simulates sound ptr
  | shutdown => exact shutdown_simulates sound

/-! ## Runs -/

/-- A new scheduler has no pages and nothing that refers to one. -/
theorem sound_default : default.Sound where
  accounts := Heap.Accounts.initial
  aligned := nofun
  distinct := List.nodup_nil
  chunks _ := nofun
  wakers _ := nofun
  idle _ := rfl
  visits := nofun

/-- A run is a run of the scheduler over a list of pages, until the scheduler is dropped. -/
def Refines (past : List Transition) (scheduler : PagedScheduler) : Prop :=
  scheduler.closed = false → ∃ abstractPast,
    Scheduler.Run .default abstractPast scheduler.abstract ∧
      abstractPast.map Runs.Transition.action =
        past.filterMap fun transition => transition.source.abstractAction transition.action

/-- One action after a run. -/
theorem Refines.step {past : List Transition} {source target : PagedScheduler}
    {action : PagedAction} (refines : Refines past source) (sound : source.Sound)
    (admissible : source.Admissible action) (advanced : source.step action = .ok target) :
    target.Sound ∧ Refines (⟨source, action, target⟩ :: past) target := by
  cases step_simulates sound admissible with
  | fails fault steps => cases steps.symm.trans advanced
  | exhausted steps => cases steps.symm.trans advanced
  | goesOn after steps sound' follows =>
    cases steps.symm.trans advanced
    refine ⟨sound', fun opened => ?_⟩
    obtain ⟨openedBefore, -, matches_⟩ := follows opened
    obtain ⟨abstractPast, run, same⟩ := refines openedBefore
    rw [List.filterMap_cons]
    cases abstracted : source.abstractAction action with
    | none =>
      rw [abstracted, Option.elim_none] at matches_
      rw [matches_]
      exact ⟨abstractPast, run, same⟩
    | some abstractAction =>
      rw [abstracted, Option.elim_some] at matches_
      refine ⟨_, .step abstractAction run matches_, ?_⟩
      rw [List.map_cons, same]

/-- What holds between the actions holds in every run, which is a run over the list of pages
until the scheduler is dropped.

Proof: by induction on the run, with `step_simulates` for each action. -/
theorem sound_run {past : List Transition} (run : Run default past scheduler)
    (admissible : Meets Admissible past) : scheduler.Sound ∧ Refines past scheduler := by
  refine run_invariant (fun past scheduler => scheduler.Sound ∧ Refines past scheduler)
    ⟨sound_default, fun _ => ⟨[], .nil, rfl⟩⟩ ?_ run admissible
  intro past source action target _ here ⟨sound, refines⟩ advanced
  exact refines.step sound here advanced

/-- The waker that the running task is given is the one for its key. -/
theorem Sound.keyOf_current (sound : scheduler.Sound) {ptr : Nat}
    (runs : scheduler.current = some ptr) :
    scheduler.abstract.running = some (scheduler.keyOf ptr) := by
  cases visits : scheduler.visit with
  | none =>
    rw [sound.idle visits] at runs
    cases runs
  | some visit =>
    cases running : visit.running with
    | none =>
      obtain ⟨-, -, -, -, -, current⟩ := sound.visits visit visits
      rw [running, runs] at current
      cases current
    | some ix =>
      obtain ⟨page, found, current, base⟩ := sound.current_eq visits running
      obtain rfl := Option.some.inj (runs.symm.trans current)
      obtain ⟨inside, rfl⟩ := List.getElem?_eq_some_iff.mp found
      rw [Scheduler.running, abstract, visits, Option.bind_some, running, Option.map_some, Visit.key,
        keyOf, base, sound.distinct.idxOf_getElem]

/-- The memory of the pages is safe, and invisible. After every run, with any number of wakers
cloned, kept, used and dropped in any order, even after the scheduler itself: the pages in the
memory are those that something refers to, and each counts its references; no action fails for
the memory; and until it is dropped the scheduler over the memory has done what the scheduler
over a list of pages does, where waking a waker is waking the key of the task that it was made
for, now and later.

Proof: the references in the memory are counted along the run, and each operation is
simulated by at most one action of the scheduler over a list of pages. `step_simulates`
has one case for each outcome: the step goes on, the scheduler itself fails, or the
identifiers are used up. -/
theorem pages_refine {past : List Transition} (run : Run default past scheduler)
    (admissible : Meets Admissible past) :
    (∀ page, (scheduler.memory.lookup page).map Counted.count =
      if scheduler.held.count page = 0 then none else some (scheduler.held.count page)) ∧
    (scheduler.closed = false → ∃ abstractPast,
      Scheduler.Run .default abstractPast scheduler.abstract ∧
        abstractPast.map Runs.Transition.action =
          past.filterMap fun transition => transition.source.abstractAction transition.action) ∧
    (∀ ptr, scheduler.current = some ptr →
      scheduler.abstract.running = some (scheduler.keyOf ptr)) ∧
    ∀ action, scheduler.Admissible action →
      (∀ fault, scheduler.step action ≠ .error (.memory fault)) ∧
      (∀ fault, scheduler.step action = .error (.scheduler fault) →
        ∃ abstracted, scheduler.abstractAction action = some abstracted ∧
          scheduler.abstract.step abstracted = .error fault) ∧
      ∀ after, scheduler.step action = .ok after → after.closed = false →
        ∀ ptr ∈ scheduler.wakers, after.keyOf ptr = scheduler.keyOf ptr := by
  obtain ⟨sound, refines⟩ := sound_run run admissible
  refine ⟨sound.accounts, refines, fun ptr runs => sound.keyOf_current runs, fun action here => ?_⟩
  cases step_simulates sound here with
  | goesOn after steps sound' follows =>
    refine ⟨fun fault fails => ?_, fun fault fails => ?_, fun other steps' opened ptr member => ?_⟩
    · cases steps.symm.trans fails
    · cases steps.symm.trans fails
    · cases steps.symm.trans steps'
      obtain ⟨openedBefore, ⟨new, grown⟩, -⟩ := follows opened
      rw [keyOf, keyOf, grown, List.idxOf_append_of_mem (sound.wakers openedBefore ptr member)]
  | fails fault steps abstracted same failing =>
    refine ⟨fun other fails => ?_, fun other fails => ?_, fun other steps' => ?_⟩
    · cases steps.symm.trans fails
    · cases steps.symm.trans fails
      exact ⟨abstracted, same, failing⟩
    · cases steps.symm.trans steps'
  | exhausted steps =>
    refine ⟨fun other fails => ?_, fun other fails => ?_, fun other steps' => ?_⟩
    · cases steps.symm.trans fails
    · cases steps.symm.trans fails
    · cases steps.symm.trans steps'

/-- A task clones its waker; the scheduler is dropped, and the handle. The page stays for the
waker alone, and is freed with it. -/
theorem pages_refine_shutdown :
    ∃ past scheduler, Run default past scheduler ∧ scheduler.closed = true ∧
      scheduler.held = [64] ∧ (scheduler.memory.lookup 64).map Counted.count = some 1 ∧
      ∃ after, scheduler.step (.wake 64) = .ok after ∧ after.memory.lookup 64 = none := by
  have executed : execute step ([], default)
      [.insert [64], .poll, .advance, .cloneWaker 64, .returned false, .advance, .shutdown, .drop 0] =
    .ok _ := rfl
  have run := run_of_execute .nil executed
  refine ⟨_, _, run, rfl, rfl, ?_, _, rfl, rfl⟩
  exact (pages_refine run (by decide)).1 64

end PagedScheduler

end Capybara
