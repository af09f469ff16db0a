import Mathlib.Data.List.Basic

/-!
# The slab that holds the tasks

`pin_slab.rs`. Values live in entries that never move; the entries of all slots are
one list here. A removed entry points to the next vacant one, so that the vacant keys
form a chain that begins at `next` and ends at the first entry that was never used.

The chain never reaches an occupied entry, so an insertion finds a free key, and
the slab behaves as a map from keys to values.
-/

namespace Capybara

/-- `Entry`. -/
inductive SlabEntry (τ : Type) where
  | none
  | vacant (next : Nat)
  | occupied (value : τ)
  deriving DecidableEq, Repr

/-- `PinSlab`. -/
structure PinSlab (τ : Type) where
  entries : List (SlabEntry τ)
  next : Nat
  deriving DecidableEq, Repr

variable {τ : Type}

namespace PinSlab

/-- `FIRST_SLOT_SIZE`. -/
def FIRST_SLOT_SIZE : Nat := 16

/-- `PinSlab::new`. -/
def new : PinSlab τ := ⟨[], 0⟩

/-- `get` and `get_pin_mut`. -/
def get (slab : PinSlab τ) (key : Nat) : Option τ :=
  match slab.entries[key]? with
  | some (.occupied value) => some value
  | _ => none

/-- The length of the slot that begins at a key: each slot after the first doubles the
capacity. -/
def slotSize (key : Nat) : Nat := if key = 0 then FIRST_SLOT_SIZE else key

/-- `insert`: the key and the slab, or nothing where the source is unreachable. -/
def insert (value : τ) (slab : PinSlab τ) : Option (Nat × PinSlab τ) :=
  let key := slab.next
  match slab.entries[key]? with
  | some .none => some (key, ⟨slab.entries.set key (.occupied value), key + 1⟩)
  | some (.vacant next) => some (key, ⟨slab.entries.set key (.occupied value), next⟩)
  | some (.occupied _) => none
  | none =>
    let slot := .occupied value :: List.replicate (slotSize key - 1) .none
    some (key, ⟨slab.entries ++ slot, key + 1⟩)

/-- `remove` and `remove_unpin`: an occupied entry becomes the first vacant one. -/
def remove (key : Nat) (slab : PinSlab τ) : PinSlab τ :=
  match slab.entries[key]? with
  | some (.occupied _) => ⟨slab.entries.set key (.vacant slab.next), key⟩
  | _ => slab

/-! ## The chain of vacant entries -/

/-- The entries from a key on have never been used. -/
def Unused (entries : List (SlabEntry τ)) (key : Nat) : Prop :=
  key ≤ entries.length ∧ ∀ entry ∈ entries.drop key, entry = .none

/-- The vacant keys that are reached from a key, up to the first that was never used. -/
inductive Chain (entries : List (SlabEntry τ)) : Nat → List Nat → Prop where
  | unused {key : Nat} (unused : Unused entries key) : Chain entries key []
  | vacant {key next : Nat} {rest : List Nat} (vacant : entries[key]? = some (.vacant next))
      (fresh : key ∉ rest) (chain : Chain entries next rest) : Chain entries key (key :: rest)

/-- The vacant entries form a chain. -/
def Sound (slab : PinSlab τ) : Prop := ∃ free, Chain slab.entries slab.next free

/-- A new slab has no entries. -/
theorem Sound.new : (new : PinSlab τ).Sound := ⟨[], .unused ⟨Nat.le_refl _, by simp [PinSlab.new]⟩⟩

variable {entries : List (SlabEntry τ)} {slab : PinSlab τ}

/-- Above the unused keys nothing is stored. -/
theorem Unused.getElem? {key other : Nat} (unused : Unused entries key) (above : key ≤ other) :
    entries[other]? = none ∨ entries[other]? = some .none := by
  cases found : entries[other]? with
  | none => exact .inl rfl
  | some entry =>
    right
    have member : entry ∈ entries.drop key := by
      refine List.mem_iff_getElem?.mpr ⟨other - key, ?_⟩
      rw [List.getElem?_drop, Nat.add_sub_cancel' above, found]
    rw [unused.2 entry member]

/-- A used entry may change. -/
theorem Unused.set {key other : Nat} (unused : Unused entries key) (below : other < key)
    (entry : SlabEntry τ) : Unused (entries.set other entry) key := by
  refine ⟨by rw [List.length_set]; exact unused.1, ?_⟩
  rw [List.drop_set_of_lt below]
  exact unused.2

/-- The keys of a chain are vacant. -/
theorem Chain.is_vacant {key other : Nat} {free : List Nat} (chain : Chain entries key free)
    (member : other ∈ free) : ∃ next, entries[other]? = some (.vacant next) := by
  induction chain with
  | unused => cases member
  | vacant vacant fresh chain inductionHypothesis =>
    obtain rfl | later := List.mem_cons.mp member
    · exact ⟨_, vacant⟩
    · exact inductionHypothesis later

/-- An entry outside of the chain that has been used may change. -/
theorem Chain.set {key other : Nat} {free : List Nat} {old : SlabEntry τ}
    (chain : Chain entries key free) (outside : other ∉ free) (used : entries[other]? = some old)
    (different : old ≠ .none) (entry : SlabEntry τ) :
    Chain (entries.set other entry) key free := by
  induction chain with
  | @unused key unused =>
    refine .unused (unused.set ?_ entry)
    by_contra above
    obtain absent | never := unused.getElem? (Nat.le_of_not_lt above)
    · rw [absent] at used
      cases used
    · rw [never] at used
      exact different (Option.some.inj used).symm
  | @vacant key next rest vacant fresh chain inductionHypothesis =>
    simp only [List.mem_cons, not_or] at outside
    obtain ⟨notHere, notLater⟩ := outside
    refine .vacant ?_ fresh (inductionHypothesis notLater)
    rw [List.getElem?_set_ne notHere, vacant]

/-! ## The slab as a map -/

/-- A key that is written reads as what was written, and the others as before. -/
theorem get_set (entries : List (SlabEntry τ)) (next key other : Nat) (entry : SlabEntry τ)
    (inside : key < entries.length) :
    (⟨entries.set key entry, next⟩ : PinSlab τ).get other =
      if other = key then
        (match entry with | .occupied value => some value | _ => none)
      else (⟨entries, next⟩ : PinSlab τ).get other := by
  unfold get
  by_cases same : other = key
  · subst same
    rw [if_pos rfl, List.getElem?_set_self inside]
    cases entry <;> rfl
  · rw [if_neg same, List.getElem?_set_ne (Ne.symm same)]

/-- An insertion finds a vacant key, and nothing else changes. -/
theorem Sound.insert (sound : slab.Sound) (value : τ) :
    ∃ key slab', slab.insert value = some (key, slab') ∧ slab'.Sound ∧ slab.get key = none ∧
      ∀ other, slab'.get other = if other = key then some value else slab.get other := by
  obtain ⟨free, chain⟩ := sound
  obtain ⟨entries, next⟩ := slab
  cases chain with
  | unused unused =>
    dsimp only at unused
    obtain absent | never := unused.getElem? (Nat.le_refl _)
    · have last : next = entries.length :=
        Nat.le_antisymm unused.1 (List.getElem?_eq_none_iff.mp absent)
      subst last
      refine ⟨entries.length, _, by simp only [PinSlab.insert, absent]; rfl, ⟨[], .unused ⟨?_, ?_⟩⟩,
        by simp only [get, absent], ?_⟩
      · simp only [List.length_append, List.length_cons]
        omega
      · intro entry member
        rw [List.drop_append, List.drop_eq_nil_of_le (Nat.le_succ _), Nat.add_sub_cancel_left] at member
        exact List.eq_of_mem_replicate member
      · intro other
        unfold get
        by_cases same : other = entries.length
        · subst same
          simp
        · rw [if_neg same]
          obtain below | above := Nat.lt_or_gt_of_ne same
          · simp only [List.getElem?_append_left below]
          · obtain ⟨offset, rfl⟩ : ∃ offset, other = entries.length + (offset + 1) :=
              ⟨other - entries.length - 1, by omega⟩
            rw [List.getElem?_append_right (Nat.le_add_right _ _), Nat.add_sub_cancel_left,
              List.getElem?_cons_succ, List.getElem?_replicate,
              List.getElem?_eq_none (Nat.le_add_right _ _)]
            by_cases within : offset < slotSize entries.length - 1
            · rw [if_pos within]
            · rw [if_neg within]
    · have inside : next < entries.length := (List.getElem?_eq_some_iff.mp never).1
      refine ⟨next, _, by simp only [PinSlab.insert, never]; rfl, ⟨[], .unused ⟨?_, ?_⟩⟩,
        by simp only [get, never], ?_⟩
      · rw [List.length_set]
        exact inside
      · intro entry member
        rw [List.drop_set_of_lt (Nat.lt_succ_self _)] at member
        exact unused.2 entry (List.drop_subset_drop_left entries (Nat.le_succ next) member)
      · intro other
        exact get_set entries _ next other _ inside
  | @vacant _ later rest vacant fresh chain =>
    dsimp only at vacant
    have inside : next < entries.length := (List.getElem?_eq_some_iff.mp vacant).1
    refine ⟨next, _, by simp only [PinSlab.insert, vacant]; rfl, ⟨rest, ?_⟩, by simp only [get, vacant], ?_⟩
    · exact chain.set fresh vacant (by simp) _
    · intro other
      exact get_set entries _ next other _ inside

/-- A removal vacates its key and no other. -/
theorem get_remove (slab : PinSlab τ) (key other : Nat) :
    (slab.remove key).get other = if other = key then none else slab.get other := by
  unfold remove
  split
  · rename_i value occupied
    have inside : key < slab.entries.length := (List.getElem?_eq_some_iff.mp occupied).1
    exact get_set slab.entries key key other _ inside
  · rename_i vacant
    by_cases same : other = key
    · subst same
      rw [if_pos rfl]
      unfold get
      split
      · rename_i value occupied
        exact absurd occupied (vacant value)
      · rfl
    · rw [if_neg same]

/-- A removal makes its key vacant, and nothing else changes. -/
theorem Sound.remove (sound : slab.Sound) (key : Nat) :
    (slab.remove key).Sound ∧
      ∀ other, (slab.remove key).get other = if other = key then none else slab.get other := by
  refine ⟨?_, slab.get_remove key⟩
  obtain ⟨free, chain⟩ := sound
  unfold PinSlab.remove
  split
  · rename_i value occupied
    have inside : key < slab.entries.length := (List.getElem?_eq_some_iff.mp occupied).1
    have outside : key ∉ free := by
      intro member
      obtain ⟨next, vacant⟩ := chain.is_vacant member
      rw [vacant] at occupied
      cases occupied
    refine ⟨key :: free, .vacant ?_ outside (chain.set outside occupied (by simp) _)⟩
    exact List.getElem?_set_self inside
  · exact ⟨free, chain⟩

end PinSlab

end Capybara
