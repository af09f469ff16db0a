import Capybara.Lib.Tables
import Mathlib.Algebra.Order.BigOperators.Group.List
import Mathlib.Algebra.Order.Ring.Nat

/-!
# Totals over a table

What the entries of a table weigh together, and how an insertion and a removal change
it. A quantity that is counted over all entries is followed through the operations of a
table by these equations, without a case distinction on the other keys.
-/

namespace Tables

variable {κ ν : Type} [DecidableEq κ]

namespace Table

omit [DecidableEq κ] in
/-- What the entries of a table weigh together. -/
def total (table : Table κ ν) (weigh : κ → ν → Nat) : Nat :=
  (table.entries.map fun entry => weigh entry.1 entry.2).sum

/-- An entry and the rest of the table weigh what the table does. -/
theorem total_erase (weigh : κ → ν → Nat) (table : Table κ ν) (key : κ) :
    total (table.erase key) weigh + (table.lookup key).elim 0 (weigh key) = total table weigh := by
  cases found : table.lookup key with
  | none =>
    have absent : key ∉ table.entries.keys := AList.lookup_eq_none.mp found
    have same : (table.erase key).entries = table.entries := List.kerase_of_notMem_keys absent
    rw [total, same]
    rfl
  | some value =>
    obtain ⟨value', before, behind, absent, entries, erased⟩ :=
      List.exists_of_kerase (AList.mem_keys.mp (mem_of_lookup found))
    have same : some value' = some value := by
      rw [← found, AList.lookup, entries, List.dlookup_append, List.dlookup_eq_none.mpr absent,
        List.dlookup_cons_eq]
      rfl
    have rest : (table.erase key).entries = before ++ behind := erased
    rw [total, total, rest, entries, Option.some.inj same]
    simp only [List.map_append, List.map_cons, List.sum_append, List.sum_cons, Option.elim_some]
    omega

/-- A new entry weighs what it weighs, and the one it replaces weighs nothing any more. -/
theorem total_insert (weigh : κ → ν → Nat) (table : Table κ ν) (key : κ) (value : ν) :
    total (table.insert key value) weigh + (table.lookup key).elim 0 (weigh key) =
      total table weigh + weigh key value := by
  have rest := total_erase weigh table key
  have front : total (table.insert key value) weigh =
      weigh key value + total (table.erase key) weigh := by
    rw [total, AList.entries_insert, List.map_cons, List.sum_cons]
    rfl
  omega

/-- With fewer keys there are fewer entries of any kind. -/
theorem total_le_of_keys (weigh : κ → Nat) {table table' : Table κ ν}
    (fewer : ∀ key, table.lookup key = none → table'.lookup key = none) :
    total table' (fun key _ => weigh key) ≤ total table fun key _ => weigh key := by
  have keyed (table : Table κ ν) :
      total table (fun key _ => weigh key) = (table.keys.map weigh).sum := by
    rw [total, AList.keys, List.keys, List.map_map]
    rfl
  rw [keyed, keyed]
  have inside : table'.keys ⊆ table.keys := by
    intro key member
    by_contra absent
    exact AList.lookup_eq_none.mp (fewer key (AList.lookup_eq_none.mpr absent)) member
  obtain ⟨part, same, sublist⟩ := List.subperm_of_subset table'.keys_nodup inside
  rw [← (same.map weigh).sum_eq]
  exact (sublist.map weigh).sum_le_sum fun _ _ => Nat.zero_le _

/-- The entries that a removal leaves out. -/
theorem filter_erase {table : Table κ ν} {key : κ} {value : ν}
    (found : table.lookup key = some value) :
    (table.entries.filter fun entry => entry.1 ∉ table.erase key) = [⟨key, value⟩] := by
  refine List.perm_singleton.mp ((List.perm_ext_iff_of_nodup ?_ (List.nodup_singleton _)).mpr ?_)
  · exact table.nodupKeys.nodup.filter _
  · intro entry
    rw [List.mem_filter, decide_eq_true_eq, AList.mem_erase, List.mem_singleton]
    constructor
    · rintro ⟨member, gone⟩
      have held : table.lookup entry.1 = some entry.2 := AList.mem_lookup_iff.mpr member
      have same : entry.1 = key := by
        by_contra different
        exact gone ⟨different, mem_of_lookup held⟩
      obtain ⟨key', value'⟩ := entry
      subst same
      cases held.symm.trans found
      rfl
    · rintro rfl
      exact ⟨AList.mem_lookup_iff.mp found, fun kept => kept.1 rfl⟩

end Table

end Tables
