import Mathlib.Data.List.Basic

/-!
# Slots

Objects that are created one after the other and can be taken away again. An object is known by
the slot that it was put in, and a slot is not used again.
-/

namespace Slots

universe u
variable {β : Type u}

/-- The objects that have been created, without those that are gone. -/
abbrev Store (β : Type u) := List (Option β)

/-- The object in a slot. -/
def read (slots : Store β) (slot : Nat) : Option β := slots[slot]?.join

variable {slots : Store β} {slot : Nat} {object : β}

/-- A slot that holds something is there. -/
theorem inside_of_read (held : read slots slot = some object) : slot < slots.length := by
  by_contra outside
  rw [read, List.getElem?_eq_none (Nat.le_of_not_lt outside)] at held
  cases held

/-- A slot that is written holds what was written. -/
theorem read_set (inside : slot < slots.length) (content : Option β) (other : Nat) :
    read (slots.set slot content) other = if other = slot then content else read slots other := by
  unfold read
  by_cases same : other = slot
  · subst same
    rw [List.getElem?_set_self inside, if_pos rfl]
    rfl
  · rw [List.getElem?_set_ne (Ne.symm same), if_neg same]

/-- An object that is left when a slot is emptied was there before. -/
theorem read_of_read_erased {other : Nat} (held : read (slots.set slot none) other = some object) :
    read slots other = some object := by
  obtain inside | outside := Nat.lt_or_ge slot slots.length
  · rw [read_set inside] at held
    split at held
    · cases held
    · exact held
  · rwa [List.set_eq_of_length_le outside] at held

/-- A new object is in the next slot. -/
theorem read_append (slots : Store β) (object : β) (other : Nat) :
    read (slots ++ [some object]) other =
      if other = slots.length then some object else read slots other := by
  unfold read
  by_cases same : other = slots.length
  · subst same
    rw [List.getElem?_append_right (Nat.le_refl _), Nat.sub_self, if_pos rfl]
    rfl
  rw [if_neg same]
  obtain inside | outside := Nat.lt_or_ge other slots.length
  · rw [List.getElem?_append_left inside]
  · rw [List.getElem?_eq_none outside, List.getElem?_eq_none]
    rw [List.length_append, List.length_singleton]
    omega

/-- Writing what a slot holds changes nothing. -/
theorem set_read (held : read slots slot = some object) : slots.set slot (some object) = slots := by
  obtain ⟨inside, found⟩ := List.getElem?_eq_some_iff.mp (Option.join_eq_some_iff.mp held)
  rw [← found, List.set_getElem_self]

/-- An empty slot that is emptied again remains as it is. -/
theorem set_absent (gone : read slots slot = none) : slots.set slot none = slots := by
  apply List.ext_getElem (List.length_set ..)
  intro other _ inside
  rw [List.getElem_set]
  split
  · rename_i same
    subst same
    rw [read, List.getElem?_eq_getElem inside] at gone
    exact gone.symm
  · rfl

/-- Objects that are changed alike keep their slots. -/
theorem read_map {γ : Type u} (f : β → γ) (slots : Store β) (slot : Nat) :
    read (slots.map (Option.map f)) slot = (read slots slot).map f := by
  unfold read
  rw [List.getElem?_map]
  cases slots[slot]? with
  | none => rfl
  | some content => rfl

end Slots
