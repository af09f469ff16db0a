import Mathlib.Data.List.Nodup
import Mathlib.Data.List.Perm.Basic
import Mathlib.Logic.Function.Basic

/-!
# Rows whose elements know their position

Elements stand in rows, each row a list, and every element caches where it stands. An
element joins at the end of a row and leaves by a swap: the last element of the row takes
its place. The cached positions are exact when an element has a position if and only if
it stands there; then no element stands in two places.
-/

namespace Positions

open scoped List

universe u
variable {α : Type u}

/-! ## Leaving a list by a swap -/

/-- Remove an element by putting the last one into its place. -/
def swapRemove (elements : List α) (index : Nat) : Option (α × List α) :=
  match elements[index]?, elements.getLast? with
  | some removed, some last => some (removed, (elements.set index last).dropLast)
  | _, _ => none

section

variable {elements rest : List α} {index : Nat} {removed : α}

/-- An element that is there can be removed. -/
theorem swapRemove_returns (inside : index < elements.length) :
    ∃ removed rest, swapRemove elements index = some (removed, rest) := by
  have nonempty : elements ≠ [] := List.ne_nil_of_length_pos (Nat.zero_lt_of_lt inside)
  rw [swapRemove, List.getElem?_eq_getElem inside, List.getLast?_eq_some_getLast nonempty]
  exact ⟨_, _, rfl⟩

/-- What is removed stood there, and what remains is everything else: the last element in
its place, the others where they were. -/
theorem swapRemove_spec (removes : swapRemove elements index = some (removed, rest)) :
    elements[index]? = some removed ∧ elements.length = rest.length + 1 ∧
      ∀ other, rest[other]? = if other = rest.length then none
        else if other = index then elements[rest.length]? else elements[other]? := by
  unfold swapRemove at removes
  split at removes
  · rename_i found last final here ends
    cases removes
    have inside : index < elements.length := (List.getElem?_eq_some_iff.mp here).1
    have length : ((elements.set index final).dropLast).length = elements.length - 1 := by
      rw [List.length_dropLast, List.length_set]
    have final : elements[elements.length - 1]? = some final := by
      rw [← List.getLast?_eq_getElem?]
      exact ends
    refine ⟨here, by omega, ?_⟩
    intro other
    rw [length, List.getElem?_dropLast, List.length_set, final]
    by_cases short : other < elements.length - 1
    · rw [if_pos short, if_neg (Nat.ne_of_lt short), List.getElem?_set]
      by_cases same : index = other
      · rw [if_pos same, if_pos inside, if_pos same.symm]
      · rw [if_neg same, if_neg (Ne.symm same)]
    · rw [if_neg short]
      by_cases same : other = elements.length - 1
      · rw [if_pos same]
      · rw [if_neg same, if_neg (by omega), List.getElem?_eq_none (by omega)]
  · cases removes

/-- The elements are those that remain and the one that was removed. -/
theorem swapRemove_perm (removes : swapRemove elements index = some (removed, rest)) :
    elements.Perm (removed :: rest) := by
  unfold swapRemove at removes
  split at removes
  · rename_i found last final here ends
    cases removes
    obtain ⟨front, rfl⟩ := List.getLast?_eq_some_iff.mp ends
    by_cases earlier : index < front.length
    · rw [List.getElem?_append_left earlier, List.getElem?_eq_getElem earlier] at here
      obtain rfl := Option.some.inj here
      rw [List.set_append_left _ _ earlier, List.dropLast_concat]
      calc front ++ [final]
        _ ~ final :: front := List.perm_append_singleton final front
        _ ~ final :: front[index] :: front.eraseIdx index :=
          (List.getElem_cons_eraseIdx_perm earlier).symm.cons final
        _ ~ front[index] :: final :: front.eraseIdx index := .swap ..
        _ ~ front[index] :: front.set index final :=
          (List.set_perm_cons_eraseIdx earlier final).symm.cons _
    · have inside := (List.getElem?_eq_some_iff.mp here).1
      rw [List.length_append, List.length_singleton] at inside
      obtain rfl : index = front.length := by omega
      rw [List.getElem?_concat_length] at here
      obtain rfl := Option.some.inj here
      rw [List.set_append_right _ _ (Nat.le_refl _), Nat.sub_self, List.set_cons_zero,
        List.dropLast_concat]
      exact List.perm_append_singleton final front
  · cases removes

/-- What stands in front of the removed element stays. -/
theorem swapRemove_take (removes : swapRemove elements index = some (removed, rest)) :
    rest.take index = elements.take index := by
  obtain ⟨here, length, others⟩ := swapRemove_spec removes
  have inside := (List.getElem?_eq_some_iff.mp here).1
  refine List.ext_getElem? fun other => ?_
  rw [List.getElem?_take, List.getElem?_take]
  split
  · rw [others, if_neg (by omega), if_neg (by omega)]
  · rfl

/-- Behind it there is everything else that stood there. -/
theorem swapRemove_drop_perm (removes : swapRemove elements index = some (removed, rest)) :
    (elements.drop index).Perm (removed :: rest.drop index) := by
  have perm := swapRemove_perm removes
  rw [← List.take_append_drop index elements, ← List.take_append_drop index rest,
    swapRemove_take removes] at perm
  exact (List.perm_append_left_iff _).mp (perm.trans List.perm_middle.symm)

end

/-! ## Positions in rows -/

/-- The element at a position: its row and where in the row it stands. -/
def entry (rows : List (List α)) (place : Nat × Nat) : Option α :=
  rows[place.1]?.bind (·[place.2]?)

/-- The place behind the last element of a row, whether or not the row exists. -/
def behind (rows : List (List α)) (index : Nat) : Nat × Nat :=
  (index, (rows[index]?.getD []).length)

/-- Rows up to an index. -/
def grow (rows : List (List α)) (index : Nat) : List (List α) :=
  rows ++ List.replicate (index + 1 - rows.length) []

/-- An element joins a row. -/
def push (rows : List (List α)) (index : Nat) (element : α) : List (List α) :=
  (grow rows index).modify index (· ++ [element])

/-- Every element stands exactly where its cached position says. -/
def Positioned (rows : List (List α)) (position : α → Option (Nat × Nat)) : Prop :=
  ∀ element place, position element = some place ↔ entry rows place = some element

section

variable {rows : List (List α)} {index : Nat}

/-- Rows that have grown have the row. -/
theorem length_grow : index < (grow rows index).length := by
  rw [grow, List.length_append, List.length_replicate]
  omega

/-- New rows are empty, and the others stay. -/
theorem getD_grow (other : Nat) : (grow rows index)[other]?.getD [] = rows[other]?.getD [] := by
  rw [grow]
  by_cases inside : other < rows.length
  · rw [List.getElem?_append_left inside]
  · rw [List.getElem?_append_right (Nat.le_of_not_lt inside), List.getElem?_replicate,
      List.getElem?_eq_none (Nat.le_of_not_lt inside)]
    split <;> rfl

/-- The entry of a place is that of its column in its row. -/
theorem entry_eq (place : Nat × Nat) : entry rows place = (rows[place.1]?.getD [])[place.2]? := by
  unfold entry
  cases rows[place.1]? <;> rfl

/-- An element that is pushed stands behind the others. -/
theorem getElem?_concat (row : List α) (element : α) (column : Nat) :
    (row ++ [element])[column]? = if column = row.length then some element else row[column]? := by
  by_cases last : column = row.length
  · rw [if_pos last, last, List.getElem?_concat_length]
  · rw [if_neg last]
    by_cases earlier : column < row.length
    · rw [List.getElem?_append_left earlier]
    · rw [List.getElem?_eq_none, List.getElem?_eq_none (Nat.le_of_not_lt earlier)]
      rw [List.length_append, List.length_singleton]
      omega

/-- A position in a row that is replaced. -/
theorem entry_set (row : List α) (inside : index < rows.length) (place : Nat × Nat) :
    entry (rows.set index row) place =
      if place.1 = index then row[place.2]? else entry rows place := by
  unfold entry
  by_cases same : place.1 = index
  · rw [if_pos same, same, List.getElem?_set_self inside]
    rfl
  · rw [if_neg same, List.getElem?_set_ne (Ne.symm same)]

/-- An element that joins stands behind the others, and these stand where they did. -/
theorem entry_push (element : α) (place : Nat × Nat) :
    entry (push rows index element) place =
      if place = behind rows index then some element else entry rows place := by
  obtain ⟨row, column⟩ := place
  have inside : index < (grow rows index).length := length_grow
  rw [entry_eq, entry_eq, push, behind]
  dsimp only
  by_cases same : row = index
  · subst same
    rw [List.getElem?_modify_eq, List.getElem?_eq_getElem inside, ← @getD_grow _ _ row row,
      List.getElem?_eq_getElem inside]
    simp only [Option.map_eq_map, Option.map_some, Option.getD_some, Prod.mk.injEq, true_and]
    exact getElem?_concat _ element column
  · rw [List.getElem?_modify_ne _ _ (Ne.symm same), getD_grow, if_neg]
    simp [same]

/-- What remains when an element has left its row: the last element of the row in its
place, all others where they were. -/
theorem entry_swapRemove {row rest : List α} {removed : α} {place : Nat × Nat}
    (found : rows[place.1]? = some row) (removes : swapRemove row place.2 = some (removed, rest)) :
    entry rows place = some removed ∧ (∃ last, entry rows (place.1, rest.length) = some last) ∧
      ∀ other, entry (rows.set place.1 rest) other = if other = (place.1, rest.length) then none
        else if other = place then entry rows (place.1, rest.length) else entry rows other := by
  obtain ⟨row', column⟩ := place
  dsimp only at found removes ⊢
  obtain ⟨here, length, others⟩ := swapRemove_spec removes
  have inside : row' < rows.length := (List.getElem?_eq_some_iff.mp found).1
  have inRow (column : Nat) : entry rows (row', column) = row[column]? := by
    rw [entry, found]
    rfl
  have ends : rest.length < row.length := by omega
  refine ⟨(inRow column).trans here, ⟨row[rest.length], ?_⟩, ?_⟩
  · rw [inRow, List.getElem?_eq_getElem ends]
  rintro ⟨otherRow, otherColumn⟩
  rw [entry_set rest inside]
  by_cases same : otherRow = row'
  · subst same
    rw [if_pos rfl, others, inRow, inRow]
    simp only [Prod.mk.injEq, true_and]
  · simp [same]

variable [DecidableEq α] {position : α → Option (Nat × Nat)}

/-- An element that is nowhere joins a row, and its position is noted. -/
theorem Positioned.push (positioned : Positioned rows position) {element : α}
    (absent : position element = none) :
    Positioned (push rows index element)
      (Function.update position element (some (behind rows index))) := by
  intro other place
  rw [entry_push, Function.update_apply]
  have free : entry rows (behind rows index) = none := by
    rw [entry_eq, behind]
    exact List.getElem?_eq_none (Nat.le_refl _)
  by_cases same : other = element
  · subst same
    rw [if_pos rfl, Option.some.injEq]
    constructor
    · rintro rfl
      rw [if_pos rfl]
    · intro found
      split at found
      · rename_i here
        exact here.symm
      · rw [(positioned other place).mpr found] at absent
        cases absent
  · rw [if_neg same, positioned other place]
    by_cases here : place = behind rows index
    · rw [if_pos here, here, free]
      simp [Ne.symm same]
    · rw [if_neg here]

/-- The position of what stands at a place is noted anew. -/
def settle (rows : List (List α)) (place : Nat × Nat) (position : α → Option (Nat × Nat)) :
    α → Option (Nat × Nat) :=
  match entry rows place with
  | some moved => Function.update position moved (some place)
  | none => position

/-- An element leaves its row: its position is forgotten and that of the element that took
its place is noted. -/
theorem Positioned.swapRemove (positioned : Positioned rows position) {row rest : List α}
    {removed : α} {place : Nat × Nat} (found : rows[place.1]? = some row)
    (removes : Positions.swapRemove row place.2 = some (removed, rest)) :
    Positioned (rows.set place.1 rest)
      (settle (rows.set place.1 rest) place (Function.update position removed none)) := by
  obtain ⟨there, ⟨last, ends⟩, entries⟩ := entry_swapRemove found removes
  intro element other
  have here : position removed = some place := (positioned removed place).mpr there
  have final : position last = some (place.1, rest.length) := (positioned last _).mpr ends
  have before := positioned element other
  rw [settle, entries place, entries other, if_pos rfl]
  -- The removed element may itself be the last of its row; then nothing moves.
  by_cases same : place = (place.1, rest.length)
  · rw [if_pos same]
    dsimp only
    grind [Function.update_apply]
  · rw [if_neg same, ends]
    dsimp only
    grind [Function.update_apply]

/-- Nobody changes rows when an element leaves: what takes its place comes from the same
row. -/
theorem Positioned.settle_row (positioned : Positioned rows position) {row rest : List α}
    {removed : α} {place : Nat × Nat} (found : rows[place.1]? = some row)
    (removes : Positions.swapRemove row place.2 = some (removed, rest)) (element : α) :
    (settle (rows.set place.1 rest) place (Function.update position removed none) element).map
      Prod.fst = if element = removed then none else (position element).map Prod.fst := by
  obtain ⟨there, ⟨last, ends⟩, entries⟩ := entry_swapRemove found removes
  have here : position removed = some place := (positioned removed place).mpr there
  have final : position last = some (place.1, rest.length) := (positioned last _).mpr ends
  rw [settle, entries place, if_pos rfl]
  by_cases same : place = (place.1, rest.length)
  · rw [if_pos same]
    dsimp only
    rw [Function.update_apply]
    split <;> rfl
  · rw [if_neg same, ends]
    dsimp only
    have different : last ≠ removed := by
      rintro rfl
      exact same (Option.some.inj (here.symm.trans final))
    rw [Function.update_apply, Function.update_apply]
    by_cases moved : element = last
    · rw [if_pos moved, if_neg (moved ▸ different), moved, final]
      rfl
    · rw [if_neg moved]
      split <;> rfl

omit [DecidableEq α] in
/-- No element stands in two places. -/
theorem Positioned.nodup (positioned : Positioned rows position) : rows.flatten.Nodup := by
  have unique {element : α} {place other : Nat × Nat} (here : entry rows place = some element)
      (there : entry rows other = some element) : place = other := by
    have first := (positioned element place).mpr here
    have second := (positioned element other).mpr there
    exact Option.some.inj (first.symm.trans second)
  have at_ {row column : Nat} (insideRow : row < rows.length)
      (inside : column < rows[row].length) : entry rows (row, column) = some rows[row][column] := by
    rw [entry, List.getElem?_eq_getElem insideRow]
    exact List.getElem?_eq_getElem inside
  rw [List.nodup_flatten]
  constructor
  · intro list member
    obtain ⟨row, insideRow, rfl⟩ := List.mem_iff_getElem.mp member
    rw [List.Nodup, List.pairwise_iff_getElem]
    intro column other inside insideOther before same
    have places := unique (at_ insideRow inside) (same ▸ at_ insideRow insideOther)
    exact Nat.ne_of_lt before (Prod.mk.inj places).2
  · rw [List.pairwise_iff_getElem]
    intro row other insideRow insideOther before element here there
    obtain ⟨column, inside, rfl⟩ := List.mem_iff_getElem.mp here
    obtain ⟨column', inside', same⟩ := List.mem_iff_getElem.mp there
    have places := unique (at_ insideRow inside) (same ▸ at_ insideOther inside')
    exact Nat.ne_of_lt before (Prod.mk.inj places).1

end

end Positions
