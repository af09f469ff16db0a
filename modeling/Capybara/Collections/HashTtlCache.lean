import Capybara.Lib.Tables
import Capybara.Runtime.Machine

/-!
# Caches whose entries expire

`inetstack/collections/hashttlcache/mod.rs`. An entry may have an expiration time. Iterating
leaves expired entries out, looking one up does not, and cleaning the cache moves them to the
graveyard, where they are never read. Every insertion cleans the cache before it stores.
-/

namespace Capybara

open Tables

namespace HashTtlCache

/-- `Record`. -/
structure Record (ν : Type) where
  value : ν
  expiration : Option Instant
  deriving DecidableEq, Repr

/-- `Record::has_expired`. -/
def Record.hasExpired {ν : Type} (record : Record ν) (now : Instant) : Bool :=
  match record.expiration with
  | some expiration => decide (expiration ≤ now)
  | none => false

end HashTtlCache

/-- `HashTtlCache`. -/
structure HashTtlCache (κ ν : Type) where
  map : Table κ (HashTtlCache.Record ν)
  graveyard : Table κ ν
  defaultTtl : Option Duration
  clock : Instant

namespace HashTtlCache

variable {κ ν : Type}

/-- `assert!(ttl > Duration::new(0, 0))`, for a time to live if there is one. -/
def assertPositive (ttl : Option Duration) : Checked Unit :=
  if ttl = some 0 then .error .zeroTtl else .ok ()

/-- `new`. -/
def new (now : Instant) (defaultTtl : Option Duration) : Checked (HashTtlCache κ ν) := do
  assertPositive defaultTtl
  return { map := ∅, graveyard := ∅, defaultTtl, clock := now }

/-- `clear`. -/
def clear (cache : HashTtlCache κ ν) : HashTtlCache κ ν := { cache with map := ∅, graveyard := ∅ }

/-- `advance_clock`. -/
def advanceClock (cache : HashTtlCache κ ν) (now : Instant) : Checked (HashTtlCache κ ν) :=
  if cache.clock ≤ now then .ok { cache with clock := now } else .error .clockBackwards

/-- `iter`. -/
def iter (cache : HashTtlCache κ ν) : List (κ × ν) :=
  cache.map.entries.filterMap fun entry =>
    if entry.2.hasExpired cache.clock then none else some (entry.1, entry.2.value)

/-- The keys that `cleanup` collects. -/
def deadEntries (cache : HashTtlCache κ ν) : List κ :=
  (cache.map.entries.filter (·.2.hasExpired cache.clock)).map (·.1)

variable [DecidableEq κ]

/-- `get`. -/
def get (cache : HashTtlCache κ ν) (key : κ) : Option ν := (cache.map.lookup key).map (·.value)

/-- An entry is put in the graveyard. -/
def bury (cache : HashTtlCache κ ν) (key : κ) : Checked (HashTtlCache κ ν) :=
  match cache.map.lookup key with
  | none => .error .deadEntryMissing
  | some record => .ok { cache with
      map := cache.map.erase key
      graveyard := cache.graveyard.insert key record.value }

/-- `cleanup`. -/
def cleanup (cache : HashTtlCache κ ν) : Checked (HashTtlCache κ ν) :=
  cache.deadEntries.foldlM bury cache

/-- `insert_with_ttl`. -/
def insertWithTtl (cache : HashTtlCache κ ν) (key : κ) (value : ν) (ttl : Option Duration) :
    Checked (HashTtlCache κ ν × Option ν) := do
  assertPositive ttl
  let expiration := ttl.map (cache.clock + ·)
  let cache ← cache.cleanup
  return ({ cache with map := cache.map.insert key ⟨value, expiration⟩ }, cache.get key)

/-- `insert`. -/
def insert (cache : HashTtlCache κ ν) (key : κ) (value : ν) : Checked (HashTtlCache κ ν × Option ν) :=
  cache.insertWithTtl key value cache.defaultTtl

/-! ## Cleaning -/

variable {cache : HashTtlCache κ ν} {key : κ} {value : ν}

/-- The dead entries are the keys of the records that have expired. -/
theorem mem_deadEntries :
    key ∈ cache.deadEntries ↔
      ∃ record, cache.map.lookup key = some record ∧ record.hasExpired cache.clock = true := by
  unfold deadEntries
  constructor
  · intro member
    obtain ⟨entry, collected, rfl⟩ := List.mem_map.mp member
    obtain ⟨stored, expired⟩ := List.mem_filter.mp collected
    exact ⟨entry.2, AList.mem_lookup_iff.mpr stored, expired⟩
  · rintro ⟨record, found, expired⟩
    exact List.mem_map.mpr ⟨⟨key, record⟩,
      List.mem_filter.mpr ⟨AList.mem_lookup_iff.mp found, expired⟩, rfl⟩

omit [DecidableEq κ] in
/-- Each key is listed once. -/
theorem deadEntries_nodup (cache : HashTtlCache κ ν) : cache.deadEntries.Nodup :=
  cache.map.keys_nodup.sublist (List.filter_sublist.map _)

/-- Keys that are stored once each can be buried one after the other. -/
theorem bury_all {keys : List κ} (stored : ∀ key ∈ keys, cache.map.lookup key ≠ none)
    (distinct : keys.Nodup) :
    ∃ cleaned, keys.foldlM bury cache = .ok cleaned ∧ cleaned.clock = cache.clock ∧
      cleaned.defaultTtl = cache.defaultTtl ∧
      ∀ key, cleaned.map.lookup key = if key ∈ keys then none else cache.map.lookup key := by
  induction keys generalizing cache with
  | nil => exact ⟨cache, rfl, rfl, rfl, fun key => (if_neg List.not_mem_nil).symm⟩
  | cons first keys inductionHypothesis =>
    obtain ⟨new, distinct⟩ := List.nodup_cons.mp distinct
    obtain ⟨record, found⟩ := Option.ne_none_iff_exists'.mp (stored first List.mem_cons_self)
    have buried : cache.bury first = .ok { cache with
        map := cache.map.erase first
        graveyard := cache.graveyard.insert first record.value } := by
      rw [bury, found]
    obtain ⟨cleaned, reached, clock, ttl, lookups⟩ := @inductionHypothesis { cache with
        map := cache.map.erase first
        graveyard := cache.graveyard.insert first record.value } (by
      intro key member
      have different : key ≠ first := fun same => new (same ▸ member)
      rw [Table.lookup_erase_eq, if_neg different]
      exact stored key (List.mem_cons_of_mem _ member)) distinct
    refine ⟨cleaned, ?_, clock, ttl, ?_⟩
    · rw [List.foldlM_cons, buried]
      exact reached
    · intro key
      rw [lookups, Table.lookup_erase_eq]
      by_cases same : key = first
      · rw [if_pos same, if_pos (List.mem_cons.mpr (.inl same)), ite_self]
      · rw [if_neg same]
        exact if_congr (by simp [same]) rfl rfl

/-- Cleaning leaves exactly the entries that have not expired. -/
theorem cleanup_ok (cache : HashTtlCache κ ν) :
    ∃ cleaned, cache.cleanup = .ok cleaned ∧ cleaned.clock = cache.clock ∧
      cleaned.defaultTtl = cache.defaultTtl ∧
      ∀ key, cleaned.map.lookup key =
        (cache.map.lookup key).filter fun record => !record.hasExpired cache.clock := by
  have stored : ∀ key ∈ cache.deadEntries, cache.map.lookup key ≠ none := by
    intro key member absent
    obtain ⟨record, found, -⟩ := mem_deadEntries.mp member
    rw [absent] at found
    cases found
  obtain ⟨cleaned, reached, clock, ttl, lookups⟩ := bury_all stored cache.deadEntries_nodup
  refine ⟨cleaned, reached, clock, ttl, ?_⟩
  intro key
  rw [lookups]
  cases found : cache.map.lookup key with
  | none => exact ite_self _
  | some record =>
    have dead : key ∈ cache.deadEntries ↔ record.hasExpired cache.clock = true := by
      rw [mem_deadEntries, found]
      simp
    cases expired : record.hasExpired cache.clock <;> simp [dead, expired, Option.filter]

/-- The iterator goes through the values that have not expired. -/
theorem mem_iter :
    (key, value) ∈ cache.iter ↔ ∃ record, cache.map.lookup key = some record ∧
      record.hasExpired cache.clock = false ∧ record.value = value := by
  unfold iter
  rw [List.mem_filterMap]
  constructor
  · rintro ⟨entry, member, yielded⟩
    split at yielded
    · cases yielded
    · rename_i alive
      cases yielded
      exact ⟨entry.2, AList.mem_lookup_iff.mpr member, Bool.eq_false_iff.mpr alive, rfl⟩
  · rintro ⟨record, found, alive, rfl⟩
    refine ⟨⟨key, record⟩, AList.mem_lookup_iff.mp found, ?_⟩
    simp [alive]

/-- An insertion cleans the cache, stores the value and returns what has been left of the old
one. -/
theorem insertWithTtl_ok (cache : HashTtlCache κ ν) (key : κ) (value : ν) {ttl : Option Duration}
    (positive : ttl ≠ some 0) :
    ∃ cleaned, cache.cleanup = .ok cleaned ∧ cache.insertWithTtl key value ttl =
      .ok ({ cleaned with
        map := cleaned.map.insert key ⟨value, ttl.map (cache.clock + ·)⟩ }, cleaned.get key) := by
  obtain ⟨cleaned, reached, -⟩ := cache.cleanup_ok
  refine ⟨cleaned, reached, ?_⟩
  rw [insertWithTtl, assertPositive, if_neg positive, reached]
  rfl

end HashTtlCache

end Capybara
