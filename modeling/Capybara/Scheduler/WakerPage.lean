import Mathlib.Data.List.Basic

/-!
# Pages of status flags

`page/page.rs` and `waker64.rs`. A page holds three bitmaps for 64 tasks; a task with
key `k` owns the bits `k % 64` of page `k / 64`. The scheduler speaks about keys, so
what each operation of a page does is stated here once for the flag of every key.

Reference counts only decide when the memory of a page is released and are left out.
-/

namespace Capybara

/-- `WAKER_BIT_LENGTH`. -/
abbrev WAKER_BIT_LENGTH : Nat := 64

/-- `WakerPage`, without its reference count. -/
structure WakerPage where
  notified : BitVec 64
  completed : BitVec 64
  dropped : BitVec 64
  deriving DecidableEq, Repr

/-- A bitmap with one bit set. -/
def setBit (bitmap : BitVec 64) (ix : Nat) : BitVec 64 := bitmap ||| 1#64 <<< ix

/-- A bitmap with one bit cleared. -/
def clearBit (bitmap : BitVec 64) (ix : Nat) : BitVec 64 := bitmap &&& ~~~(1#64 <<< ix)

/-- `BitIter`: the positions of the set bits, in ascending order. -/
def bits (bitmap : BitVec 64) : List Nat :=
  (List.range WAKER_BIT_LENGTH).filter fun ix => bitmap.getLsbD ix

namespace WakerPage

/-- `default`. -/
def default : WakerPage := ⟨0, 0, 0⟩

/-- `notify`. -/
def notify (page : WakerPage) (ix : Nat) : WakerPage :=
  { page with notified := setBit page.notified ix }

/-- `mark_completed`. -/
def markCompleted (page : WakerPage) (ix : Nat) : WakerPage :=
  { page with completed := setBit page.completed ix }

/-- `mark_dropped`. -/
def markDropped (page : WakerPage) (ix : Nat) : WakerPage :=
  { page with dropped := setBit page.dropped ix }

/-- `initialize`. -/
def initialize_ (page : WakerPage) (ix : Nat) : WakerPage where
  notified := setBit page.notified ix
  completed := clearBit page.completed ix
  dropped := clearBit page.dropped ix

/-- `clear`. -/
def clear (page : WakerPage) (ix : Nat) : WakerPage where
  notified := clearBit page.notified ix
  completed := clearBit page.completed ix
  dropped := clearBit page.dropped ix

/-- `take_notified`: "spurious notifications for completed futures would lead us to poll
them after completion". -/
def takeNotified (page : WakerPage) : BitVec 64 × WakerPage :=
  (page.notified &&& ~~~page.completed &&& ~~~page.dropped, { page with notified := 0 })

/-- `take_dropped`. -/
def takeDropped (page : WakerPage) : BitVec 64 × WakerPage :=
  (page.dropped, { page with dropped := 0 })

end WakerPage

/-- The bits of a bitmap are those that are set. -/
theorem mem_bits {bitmap : BitVec 64} {ix : Nat} : ix ∈ bits bitmap ↔ bitmap.getLsbD ix = true := by
  rw [bits, List.mem_filter, List.mem_range]
  constructor
  · exact And.right
  · intro set
    exact ⟨BitVec.lt_of_getLsbD set, set⟩

/-- Each bit is listed once. -/
theorem bits_nodup (bitmap : BitVec 64) : (bits bitmap).Nodup :=
  List.nodup_range.filter _

/-- Setting a bit sets this one. -/
theorem getLsbD_setBit (bitmap : BitVec 64) {ix : Nat} (inside : ix < 64) (other : Nat) :
    (setBit bitmap ix).getLsbD other = (decide (other = ix) || bitmap.getLsbD other) := by
  rw [setBit, ← BitVec.twoPow_eq, BitVec.getLsbD_or, BitVec.getLsbD_twoPow, Bool.or_comm]
  simp [inside, eq_comm]

/-- Clearing a bit clears this one. -/
theorem getLsbD_clearBit (bitmap : BitVec 64) (ix other : Nat) :
    (clearBit bitmap ix).getLsbD other = (decide (other ≠ ix) && bitmap.getLsbD other) := by
  rw [clearBit, ← BitVec.twoPow_eq, BitVec.getLsbD_and, BitVec.getLsbD_not, BitVec.getLsbD_twoPow,
    Bool.and_comm]
  by_cases inside : other < 64
  · by_cases same : other = ix
    · subst same
      simp [inside]
    · simp [inside, same, Ne.symm same]
  · simp [BitVec.getLsbD_of_ge bitmap other (Nat.le_of_not_lt inside)]

/-! ## The flags of a key -/

/-- The flag of a task in one of the bitmaps. -/
def flag (bitmap : WakerPage → BitVec 64) (pages : List WakerPage) (key : Nat) : Bool :=
  (pages[key / 64]?).any fun page => (bitmap page).getLsbD (key % 64)

/-- An operation on the page of a task. -/
def onPage (pages : List WakerPage) (key : Nat) (operation : WakerPage → Nat → WakerPage) :
    List WakerPage :=
  pages.modify (key / 64) fun page => operation page (key % 64)

section

variable {bitmap : WakerPage → BitVec 64} {pages : List WakerPage}
  {operation : WakerPage → Nat → WakerPage}

/-- A change of one page changes flags of this page only. -/
theorem flag_modify (update : WakerPage → WakerPage) (index other : Nat) :
    flag bitmap (pages.modify index update) other =
      if other / 64 = index then (pages[other / 64]?).any fun page =>
        (bitmap (update page)).getLsbD (other % 64)
      else flag bitmap pages other := by
  rw [flag, List.getElem?_modify]
  by_cases same : other / 64 = index
  · rw [if_pos same]
    cases pages[other / 64]? <;> simp [same]
  · rw [if_neg same, flag]
    cases pages[other / 64]? <;> simp [Ne.symm same]

/-- A flag that is set stands on a page that is there. -/
theorem flag_covered {key : Nat} (set : flag bitmap pages key = true) : key / 64 < pages.length := by
  by_contra outside
  rw [flag, List.getElem?_eq_none (Nat.le_of_not_lt outside)] at set
  cases set

/-- A page that is replaced. -/
theorem flag_replace {page : Nat} (inside : page < pages.length) (replacement : WakerPage)
    (other : Nat) :
    flag bitmap (pages.set page replacement) other =
      if other / 64 = page then (bitmap replacement).getLsbD (other % 64)
      else flag bitmap pages other := by
  rw [flag]
  by_cases same : other / 64 = page
  · subst same
    rw [if_pos rfl, List.getElem?_set_self inside, Option.any_some]
  · rw [if_neg same, List.getElem?_set_ne (Ne.symm same), flag]

/-- A flag of a page that was found. -/
theorem flag_of_found {current : WakerPage} {page key : Nat} (found : pages[page]? = some current)
    (here : key / 64 = page) : flag bitmap pages key = (bitmap current).getLsbD (key % 64) := by
  rw [flag, here, found, Option.any_some]

/-- The flag of a slot of a page that was found. -/
theorem flag_at {page ix : Nat} {current : WakerPage} (found : pages[page]? = some current)
    (inside : ix < 64) : flag bitmap pages (page * 64 + ix) = (bitmap current).getLsbD ix := by
  have here : (page * 64 + ix) / 64 = page := by omega
  have offset : (page * 64 + ix) % 64 = ix := by omega
  rw [flag_of_found found here, offset]

/-- An operation that leaves a bitmap alone. -/
theorem flag_same (bitmap : WakerPage → BitVec 64) (operation : WakerPage → Nat → WakerPage)
    (kept : ∀ page ix, bitmap (operation page ix) = bitmap page) (key other : Nat) :
    flag bitmap (onPage pages key operation) other = flag bitmap pages other := by
  rw [onPage, flag_modify]
  split
  · simp only [kept, flag]
  · rfl

/-- An operation that sets a bit. -/
theorem flag_set (sets : ∀ page ix, bitmap (operation page ix) = setBit (bitmap page) ix)
    {key : Nat} (covered : key / 64 < pages.length) (other : Nat) :
    flag bitmap (onPage pages key operation) other =
      (decide (other = key) || flag bitmap pages other) := by
  rw [onPage, flag_modify]
  by_cases here : other / 64 = key / 64
  · rw [if_pos here, flag, here, List.getElem?_eq_getElem covered]
    have bit : other % 64 = key % 64 ↔ other = key := by omega
    simp only [Option.any_some, sets, getLsbD_setBit _ (Nat.mod_lt key (by decide : 0 < 64)), bit]
  · rw [if_neg here]
    have different : other ≠ key := fun same => here (congrArg (· / 64) same)
    simp [different]

/-- It leaves set what was set, whether or not its page exists. -/
theorem flag_still_set (sets : ∀ page ix, bitmap (operation page ix) = setBit (bitmap page) ix)
    (key : Nat) {other : Nat} (set : flag bitmap pages other = true) :
    flag bitmap (onPage pages key operation) other = true := by
  by_cases here : other / 64 = key / 64
  · rw [flag_set sets (here ▸ flag_covered set), set, Bool.or_true]
  · rw [onPage, flag_modify, if_neg here]
    exact set

/-- An operation that clears a bit. -/
theorem flag_clear (clears : ∀ page ix, bitmap (operation page ix) = clearBit (bitmap page) ix)
    (key other : Nat) :
    flag bitmap (onPage pages key operation) other =
      (decide (other ≠ key) && flag bitmap pages other) := by
  rw [onPage, flag_modify]
  by_cases here : other / 64 = key / 64
  · have bit : other % 64 = key % 64 ↔ other = key := by omega
    rw [if_pos here, flag]
    cases pages[other / 64]? with
    | none => simp
    | some page => simp only [Option.any_some, clears, getLsbD_clearBit, ne_eq, bit]
  · rw [if_neg here]
    have different : other ≠ key := fun same => here (congrArg (· / 64) same)
    simp [different]

/-- New pages have no flag set. -/
theorem flag_append (empty : bitmap WakerPage.default = 0) (count key : Nat) :
    flag bitmap (pages ++ List.replicate count WakerPage.default) key = flag bitmap pages key := by
  rw [flag, flag]
  by_cases inside : key / 64 < pages.length
  · rw [List.getElem?_append_left inside]
  · rw [List.getElem?_append_right (Nat.le_of_not_lt inside), List.getElem?_replicate,
      List.getElem?_eq_none (Nat.le_of_not_lt inside)]
    split
    · simp [empty]
    · rfl

/-- No page comes or goes. -/
theorem length_onPage (key : Nat) : (onPage pages key operation).length = pages.length :=
  List.length_modify ..

end

end Capybara
