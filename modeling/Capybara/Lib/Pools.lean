import Mathlib.Data.List.Perm.Basic
import Mathlib.Logic.Function.Basic

/-!
# Pools of resources

Holders draw resources from a list of free ones. Some resources are managed: they are
either free or held, by one holder at most, and none is lost. A resource that is not
managed may stand in the list as well; it may be held by several, but not while it is free.

Each rule is about one way a resource can change hands. The order of the list is
irrelevant, so that the rules take it up to permutation.
-/

namespace Pools

variable {ρ η : Type} [DecidableEq η]

/-- The books of a pool: what was offered at first, what is free and what is held. -/
structure Accounted (managed : ρ → Prop) (offered free : List ρ) (held : η → Option ρ) :
    Prop where
  nodup : free.Nodup
  apart : ∀ holder resource, held holder = some resource → resource ∉ free
  single : ∀ holder other resource, managed resource → held holder = some resource →
    held other = some resource → holder = other
  conserved : ∀ resource, managed resource →
    (resource ∈ offered ↔ resource ∈ free ∨ ∃ holder, held holder = some resource)

namespace Accounted

variable {managed : ρ → Prop} {offered free free' : List ρ} {held : η → Option ρ}

omit [DecidableEq η] in
/-- At first all is free. -/
theorem initial (nodup : offered.Nodup) (unheld : ∀ holder, held holder = none) :
    Accounted managed offered offered held where
  nodup
  apart holder resource holds := by
    rw [unheld holder] at holds
    cases holds
  single holder other resource _ holds := by
    rw [unheld holder] at holds
    cases holds
  conserved resource _ := by
    constructor
    · exact .inl
    · rintro (member | ⟨holder, holds⟩)
      · exact member
      · rw [unheld holder] at holds
        cases holds

omit [DecidableEq η] in
/-- The order of the free resources does not matter. -/
theorem perm (books : Accounted managed offered free held) (same : free.Perm free') :
    Accounted managed offered free' held where
  nodup := same.nodup_iff.mp books.nodup
  apart holder resource holds member := books.apart holder resource holds (same.mem_iff.mpr member)
  single := books.single
  conserved resource isManaged := by rw [books.conserved resource isManaged, same.mem_iff]

omit [DecidableEq η] in
/-- A managed resource is free exactly when it was offered and nobody holds it. -/
theorem free_iff (books : Accounted managed offered free held) {resource : ρ}
    (isManaged : managed resource) :
    resource ∈ free ↔ resource ∈ offered ∧ ∀ holder, held holder ≠ some resource := by
  constructor
  · intro member
    exact ⟨(books.conserved resource isManaged).mpr (.inl member),
      fun holder holds => books.apart holder resource holds member⟩
  · rintro ⟨member, unheld⟩
    obtain isFree | ⟨holder, holds⟩ := (books.conserved resource isManaged).mp member
    · exact isFree
    · exact absurd holds (unheld holder)

/-- A free resource is given to a holder that has none. -/
theorem assign {resource : ρ} {holder : η}
    (books : Accounted managed offered (resource :: free) held) (idle : held holder = none) :
    Accounted managed offered free (Function.update held holder (some resource)) := by
  obtain ⟨absent, nodup⟩ := List.nodup_cons.mp books.nodup
  have unheld : ∀ other, held other ≠ some resource :=
    fun other holds => books.apart other resource holds List.mem_cons_self
  refine ⟨nodup, fun other taken holds member => ?_, fun first second taken isManaged holds holds' => ?_,
    fun taken isManaged => ?_⟩
  · rw [Function.update_apply] at holds
    split at holds
    · cases holds
      exact absent member
    · exact books.apart other taken holds (List.mem_cons_of_mem _ member)
  · rw [Function.update_apply] at holds holds'
    split at holds <;> split at holds'
    · rename_i first_eq second_eq
      rw [first_eq, second_eq]
    · cases holds
      exact absurd holds' (unheld second)
    · cases holds'
      exact absurd holds (unheld first)
    · exact books.single first second taken isManaged holds holds'
  · rw [books.conserved taken isManaged, List.mem_cons]
    constructor
    · rintro ((rfl | member) | ⟨other, holds⟩)
      · exact .inr ⟨holder, Function.update_self _ _ _⟩
      · exact .inl member
      · refine .inr ⟨other, ?_⟩
        rw [Function.update_of_ne, holds]
        rintro rfl
        rw [idle] at holds
        cases holds
    · rintro (member | ⟨other, holds⟩)
      · exact .inl (.inr member)
      · rw [Function.update_apply] at holds
        split at holds
        · cases holds
          exact .inl (.inl rfl)
        · exact .inr ⟨other, holds⟩

/-- A resource that is neither managed nor free is given to a holder that has none. -/
theorem name {resource : ρ} {holder : η} (books : Accounted managed offered free held)
    (idle : held holder = none) (unmanaged : ¬ managed resource) (absent : resource ∉ free) :
    Accounted managed offered free (Function.update held holder (some resource)) := by
  refine ⟨books.nodup, fun other taken holds => ?_, fun first second taken isManaged holds holds' => ?_,
    fun taken isManaged => ?_⟩
  · rw [Function.update_apply] at holds
    split at holds
    · cases holds
      exact absent
    · exact books.apart other taken holds
  · rw [Function.update_apply] at holds holds'
    split at holds
    · cases holds
      exact absurd isManaged unmanaged
    · split at holds'
      · cases holds'
        exact absurd isManaged unmanaged
      · exact books.single first second taken isManaged holds holds'
  · rw [books.conserved taken isManaged]
    refine or_congr_right (exists_congr fun other => ?_)
    rw [Function.update_apply]
    split
    · rename_i same
      rw [same, idle]
      refine iff_of_false (Option.some_ne_none _).symm fun equal => ?_
      cases equal
      exact unmanaged isManaged
    · exact Iff.rfl

omit [DecidableEq η] in
/-- A free resource that is not managed may be lost. -/
theorem drop {resource : ρ} (books : Accounted managed offered (resource :: free) held)
    (unmanaged : ¬ managed resource) : Accounted managed offered free held where
  nodup := (List.nodup_cons.mp books.nodup).2
  apart holder taken holds member := books.apart holder taken holds (List.mem_cons_of_mem _ member)
  single := books.single
  conserved taken isManaged := by
    rw [books.conserved taken isManaged, List.mem_cons]
    have different : taken ≠ resource := by
      rintro rfl
      exact unmanaged isManaged
    rw [or_iff_right different]

/-- A holder that has no managed resource lets go of what it has. -/
theorem release {holder : η} (books : Accounted managed offered free held)
    (unmanaged : ∀ resource, held holder = some resource → ¬ managed resource) :
    Accounted managed offered free (Function.update held holder none) := by
  refine ⟨books.nodup, fun other taken holds => ?_, fun first second taken isManaged holds holds' => ?_,
    fun taken isManaged => ?_⟩
  · rw [Function.update_apply] at holds
    split at holds
    · cases holds
    · exact books.apart other taken holds
  · rw [Function.update_apply] at holds holds'
    split at holds
    · cases holds
    · split at holds'
      · cases holds'
      · exact books.single first second taken isManaged holds holds'
  · rw [books.conserved taken isManaged]
    refine or_congr_right (exists_congr fun other => ?_)
    rw [Function.update_apply]
    split
    · rename_i same
      rw [same]
      exact iff_of_false (fun holds => unmanaged taken holds isManaged) (Option.some_ne_none _).symm
    · exact Iff.rfl

/-- A holder that lets go of a managed resource loses it. -/
theorem lost {holder : η} {resource : ρ} (books : Accounted managed offered free held)
    (holds : held holder = some resource) (isManaged : managed resource) :
    resource ∈ offered ∧ resource ∉ free ∧
      ∀ other, Function.update held holder none other ≠ some resource := by
  refine ⟨(books.conserved resource isManaged).mpr (.inr ⟨holder, holds⟩),
    books.apart holder resource holds, fun other => ?_⟩
  rw [Function.update_apply]
  split
  · exact (Option.some_ne_none _).symm
  · rename_i different
    exact fun holds' => different (books.single other holder resource isManaged holds' holds)

end Accounted

end Pools
