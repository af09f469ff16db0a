import Capybara.Lib.Tables

/-!
# Counted objects

Objects that several references share are kept on a heap, each with the number of its
references, and leave it with the last of them. `Accounts` compares the numbers with the
references that there really are, whoever holds them. As long as the accounts are right no
operation on a reference that is held fails, and every such reference finds its object.
-/

namespace References

open Tables

/-- The ways in which an operation on a reference can go wrong. -/
inductive ReferenceFault where
  /-- There is no object. -/
  | dangling
  /-- The object has no reference left to give up. -/
  | doubleFree
  /-- The object cannot have more references. -/
  | overflow
  deriving DecidableEq, Repr

/-- An object with the number of its references. -/
structure Counted (ν : Type) where
  count : Nat
  value : ν
  deriving DecidableEq, Repr

/-- The objects that have not been freed. -/
abbrev Heap (κ ν : Type) := Table κ (Counted ν)

variable {κ ν : Type} [DecidableEq κ]

namespace Heap

/-- A new object with one reference. -/
def allocate (object : κ) (value : ν) (heap : Heap κ ν) : Heap κ ν := heap.insert object ⟨1, value⟩

/-- One more reference, up to a limit. -/
def retain (limit : Nat) (object : κ) (heap : Heap κ ν) : Except ReferenceFault (Heap κ ν) :=
  match heap.lookup object with
  | none => .error .dangling
  | some counted =>
    if counted.count < limit then
      .ok (heap.insert object { counted with count := counted.count + 1 })
    else .error .overflow

/-- One reference less; the object is freed with the last one. -/
def release (object : κ) (heap : Heap κ ν) : Except ReferenceFault (Heap κ ν) :=
  match heap.lookup object with
  | none => .error .dangling
  | some counted =>
    match counted.count with
    | 0 => .error .doubleFree
    | 1 => .ok (heap.erase object)
    | count + 2 => .ok (heap.insert object { counted with count := count + 1 })

/-- Give up several references, one after the other. -/
def releaseAll : List κ → Heap κ ν → Except ReferenceFault (Heap κ ν)
  | [], heap => .ok heap
  | object :: objects, heap =>
    match heap.release object with
    | .error fault => .error fault
    | .ok heap => releaseAll objects heap

/-- What an object is. -/
def read (heap : Heap κ ν) (object : κ) : Option ν := (heap.lookup object).map Counted.value

/-- An object changes. -/
def update (object : κ) (operation : ν → ν) (heap : Heap κ ν) : Except ReferenceFault (Heap κ ν) :=
  match heap.lookup object with
  | none => .error .dangling
  | some counted => .ok (heap.insert object { counted with value := operation counted.value })

/-- The heap holds the objects that have references, with their numbers. -/
def Accounts (heap : Heap κ ν) (references : κ → Nat) : Prop :=
  ∀ object, (heap.lookup object).map Counted.count =
    if references object = 0 then none else some (references object)

/-- The references with one more to an object. -/
def plus (references : κ → Nat) (object : κ) : κ → Nat :=
  fun other => references other + if other = object then 1 else 0

/-- An object that was not touched reads as before. -/
theorem read_eq {heap heap' : Heap κ ν} {object : κ}
    (same : heap'.lookup object = heap.lookup object) : heap'.read object = heap.read object := by
  rw [read, read, same]

namespace Accounts

variable {heap : Heap κ ν} {references references' : κ → Nat} {object : κ}

/-- An empty heap accounts for no references. -/
theorem initial : (∅ : Heap κ ν).Accounts fun _ => 0 := fun _ => rfl

/-- The same references, counted in another way. -/
theorem congr (accounts : heap.Accounts references) (same : ∀ other, references' other = references other) :
    heap.Accounts references' := by
  intro other
  rw [same]
  exact accounts other

/-- A reference finds its object. -/
theorem live (accounts : heap.Accounts references) (referenced : 0 < references object) :
    ∃ counted, heap.lookup object = some counted ∧ counted.count = references object := by
  have found := accounts object
  rw [if_neg (Nat.ne_of_gt referenced)] at found
  obtain ⟨counted, present, number⟩ := Option.map_eq_some_iff.mp found
  exact ⟨counted, present, number⟩

/-- An object that is referred to can be read. -/
theorem read_live (accounts : heap.Accounts references) (referenced : 0 < references object) :
    ∃ value, heap.read object = some value := by
  obtain ⟨counted, found, -⟩ := accounts.live referenced
  exact ⟨counted.value, by rw [read, found]; rfl⟩

/-- Nothing refers to what is not there. -/
theorem unreferenced (accounts : heap.Accounts references) (absent : heap.lookup object = none) :
    references object = 0 := by
  by_contra referenced
  obtain ⟨counted, found, -⟩ := accounts.live (Nat.pos_of_ne_zero referenced)
  rw [absent] at found
  cases found

/-- The accounts after the entry of one object has been written. -/
theorem insert (accounts : heap.Accounts references) (counted : Counted ν)
    (positive : 0 < counted.count) (here : references' object = counted.count)
    (elsewhere : ∀ other, other ≠ object → references' other = references other) :
    Accounts (heap.insert object counted) references' := by
  intro other
  rw [Table.lookup_insert_eq]
  by_cases same : other = object
  · subst same
    rw [if_pos rfl, here, if_neg (Nat.ne_of_gt positive)]
    rfl
  · rw [if_neg same, elsewhere other same]
    exact accounts other

/-- A new object has one reference. -/
theorem allocate (accounts : heap.Accounts references) (fresh : heap.lookup object = none)
    (value : ν) : (heap.allocate object value).Accounts (plus references object) := by
  refine accounts.insert ⟨1, value⟩ Nat.one_pos ?_ fun other different => ?_
  · rw [plus, if_pos rfl, accounts.unreferenced fresh]
  · rw [plus, if_neg different, Nat.add_zero]

/-- A reference that is held can be copied. -/
theorem retain {limit : Nat} (accounts : heap.Accounts references)
    (referenced : 0 < references object) (below : references object < limit) :
    ∃ heap', heap.retain limit object = .ok heap' ∧ heap'.Accounts (plus references object) ∧
      ∀ other, heap'.read other = heap.read other := by
  obtain ⟨counted, found, number⟩ := accounts.live referenced
  refine ⟨_, by rw [Heap.retain, found]; exact if_pos (number ▸ below), ?_, fun other => ?_⟩
  · refine accounts.insert ⟨counted.count + 1, counted.value⟩ (Nat.succ_pos _) ?_
      fun other different => ?_
    · rw [plus, if_pos rfl, number]
    · rw [plus, if_neg different, Nat.add_zero]
  · rw [read, read, Table.lookup_insert_eq]
    by_cases same : other = object
    · subst same
      rw [if_pos rfl, found]
      rfl
    · rw [if_neg same]

/-- A reference that is held can be given up; the other ones still find their objects. -/
theorem release (accounts : heap.Accounts (plus references object)) :
    ∃ heap', heap.release object = .ok heap' ∧ heap'.Accounts references ∧
      ∀ other, 0 < references other → heap'.read other = heap.read other := by
  have here : plus references object object = references object + 1 := by rw [plus, if_pos rfl]
  have elsewhere {other : κ} (different : other ≠ object) :
      references other = plus references object other := by
    rw [plus, if_neg different, Nat.add_zero]
  obtain ⟨⟨count, value⟩, found, number⟩ := accounts.live (Nat.lt_of_lt_of_eq (Nat.succ_pos _) here.symm)
  rw [here] at number
  cases rest : references object with
  | zero =>
    rw [rest] at number
    subst number
    refine ⟨heap.erase object, by rw [Heap.release, found], fun other => ?_, fun other left => ?_⟩
    · rw [Table.lookup_erase_eq]
      by_cases same : other = object
      · subst same
        rw [if_pos rfl, if_pos rest]
        rfl
      · rw [if_neg same, elsewhere same]
        exact accounts other
    · have different : other ≠ object := by
        rintro rfl
        rw [rest] at left
        exact absurd left (Nat.lt_irrefl 0)
      exact read_eq (AList.lookup_erase_ne different)
  | succ left =>
    rw [rest] at number
    subst number
    refine ⟨heap.insert object ⟨left + 1, value⟩, by rw [Heap.release, found],
      accounts.insert ⟨left + 1, value⟩ (Nat.succ_pos _) rest fun other different => elsewhere different,
      fun other _ => ?_⟩
    rw [read, read, Table.lookup_insert_eq]
    by_cases same : other = object
    · subst same
      rw [if_pos rfl, found]
      rfl
    · rw [if_neg same]

/-- Several references are given up. -/
theorem releaseAll {objects : List κ}
    (accounts : heap.Accounts fun other => references other + objects.count other) :
    ∃ heap', heap.releaseAll objects = .ok heap' ∧ heap'.Accounts references ∧
      ∀ other, 0 < references other → heap'.read other = heap.read other := by
  induction objects generalizing heap with
  | nil => exact ⟨heap, rfl, accounts, fun _ _ => rfl⟩
  | cons object objects inductionHypothesis =>
    have split : heap.Accounts
        (plus (fun other => references other + objects.count other) object) := by
      refine accounts.congr fun other => ?_
      rw [plus, List.count_cons]
      simp only [beq_iff_eq, eq_comm (a := object)]
      omega
    obtain ⟨middle, releases, middleAccounts, reads⟩ := split.release
    obtain ⟨heap', releasesAll, accounts', reads'⟩ := inductionHypothesis middleAccounts
    refine ⟨heap', by rw [Heap.releaseAll, releases]; exact releasesAll, accounts',
      fun other referenced => ?_⟩
    rw [reads' other referenced, reads other (Nat.add_pos_left referenced _)]

/-- An object that is referred to can be changed. -/
theorem update (accounts : heap.Accounts references) (referenced : 0 < references object)
    (operation : ν → ν) :
    ∃ heap', heap.update object operation = .ok heap' ∧ heap'.Accounts references ∧
      ∀ other, heap'.read other =
        if other = object then (heap.read object).map operation else heap.read other := by
  obtain ⟨counted, found, number⟩ := accounts.live referenced
  refine ⟨_, by rw [Heap.update, found], ?_, fun other => ?_⟩
  · exact accounts.insert _ (number ▸ referenced) number.symm fun other _ => rfl
  · rw [read, Table.lookup_insert_eq, read, read]
    by_cases same : other = object
    · subst same
      rw [if_pos rfl, if_pos rfl, found]
      rfl
    · rw [if_neg same, if_neg same]

end Accounts

end Heap

end References
