import Mathlib.Data.List.AList

/-!
# Finite tables

A table is an association list without repeated keys. Looking up a key after an
insertion or a removal is stated once for every key, as a case distinction, so that
a proof about several tables splits on the keys it is about.
-/

namespace Tables

/-- A finite map with values of one type. -/
abbrev Table (κ ν : Type) := AList fun _ : κ => ν

variable {κ ν : Type} [DecidableEq κ]

namespace Table

/-- An insertion is found under its key, and what is under the others stays. -/
theorem lookup_insert_eq (table : Table κ ν) (key other : κ) (value : ν) :
    (table.insert key value).lookup other = if other = key then some value else table.lookup other := by
  by_cases same : other = key
  · subst same
    rw [if_pos rfl, AList.lookup_insert]
  · rw [if_neg same, AList.lookup_insert_ne same]

/-- What is erased is not found, and what is under the others stays. -/
theorem lookup_erase_eq (table : Table κ ν) (key other : κ) :
    (table.erase key).lookup other = if other = key then none else table.lookup other := by
  by_cases same : other = key
  · subst same
    rw [if_pos rfl, AList.lookup_erase]
  · rw [if_neg same, AList.lookup_erase_ne same]

/-- An insertion that neither brings a value nor overwrites it leaves its keys alone. -/
theorem lookup_insert_iff {table : Table κ ν} {key : κ} {value target : ν}
    (absent : table.lookup key ≠ some target) (different : value ≠ target) (other : κ) :
    (table.insert key value).lookup other = some target ↔ table.lookup other = some target := by
  rw [lookup_insert_eq]
  by_cases same : other = key
  · subst same
    simp [absent, different]
  · rw [if_neg same]

/-- A removal of another value leaves the keys of a value alone. -/
theorem lookup_erase_iff {table : Table κ ν} {key : κ} {target : ν}
    (absent : table.lookup key ≠ some target) (other : κ) :
    (table.erase key).lookup other = some target ↔ table.lookup other = some target := by
  rw [lookup_erase_eq]
  by_cases same : other = key
  · subst same
    simp [absent]
  · rw [if_neg same]

/-- A key under which something is found is in the table. -/
theorem mem_of_lookup {table : Table κ ν} {key : κ} {value : ν} (found : table.lookup key = some value) :
    key ∈ table :=
  AList.lookup_isSome.mp (Option.isSome_of_eq_some found)

/-- Overwriting a value does not change which keys there are. -/
theorem mem_insert_iff_of_lookup {table : Table κ ν} {key : κ} {value : ν}
    (found : table.lookup key = some value) (value' : ν) (other : κ) :
    other ∈ table.insert key value' ↔ other ∈ table := by
  rw [AList.mem_insert]
  constructor
  · rintro (rfl | member)
    · exact mem_of_lookup found
    · exact member
  · exact .inr

omit [DecidableEq κ] in
/-- There are as many keys as entries. -/
theorem length_keys (table : Table κ ν) : table.keys.length = table.entries.length :=
  List.length_map _

/-- A new key makes a table longer by one. -/
theorem length_insert {table : Table κ ν} {key : κ} (absent : table.lookup key = none) (value : ν) :
    (table.insert key value).entries.length = table.entries.length + 1 := by
  rw [AList.entries_insert_of_notMem (AList.lookup_eq_none.mp absent), List.length_cons]

/-- A removed key makes a table shorter by one. -/
theorem length_erase {table : Table κ ν} {key : κ} {value : ν}
    (found : table.lookup key = some value) :
    (table.erase key).entries.length + 1 = table.entries.length := by
  have member : key ∈ table.keys := AList.mem_keys.mp (mem_of_lookup found)
  rw [← length_keys, ← length_keys, AList.keys_erase, List.length_erase_of_mem member]
  have positive := List.length_pos_of_mem member
  omega

end Table

end Tables
