import Capybara.Collections.HashTtlCache
import Capybara.Lib.Runs

/-!
# What a cache is for

The reference of a cache is the latest insertion of each key since the cache was last cleared.
It is live until it expires. A cache keeps what was live when it was last cleaned, so that it
agrees with its reference exactly as long as nothing has expired since then: iterating decides
anew what has expired, looking up does not.
-/

namespace Capybara

open Tables Runs

namespace HashTtlCache

/-- What happens to a cache. -/
inductive Action (κ ν : Type) where
  | insert (key : κ) (value : ν)
  | insertWithTtl (key : κ) (value : ν) (ttl : Option Duration)
  | advanceClock (now : Instant)
  | cleanup
  | clear
  deriving DecidableEq, Repr

variable {κ ν : Type} [DecidableEq κ]

/-- One action. -/
def step (cache : HashTtlCache κ ν) : Action κ ν → Checked (HashTtlCache κ ν)
  | .insert key value => do
    let (cache, _) ← cache.insert key value
    return cache
  | .insertWithTtl key value ttl => do
    let (cache, _) ← cache.insertWithTtl key value ttl
    return cache
  | .advanceClock now => cache.advanceClock now
  | .cleanup => cache.cleanup
  | .clear => return cache.clear

/-- The latest insertion of each key since the last clear, with the clock now and when the
cache was cleaned last. -/
structure Reference (κ ν : Type) where
  latest : κ → Option (Record ν)
  clock : Instant
  cleaned : Instant

namespace Reference

/-- Nothing has been inserted. -/
def start (now : Instant) : Reference κ ν := ⟨fun _ => none, now, now⟩

/-- A value is inserted. -/
def store (reference : Reference κ ν) (key : κ) (value : ν) (ttl : Option Duration) :
    Reference κ ν where
  latest := Function.update reference.latest key (some ⟨value, ttl.map (reference.clock + ·)⟩)
  clock := reference.clock
  cleaned := reference.clock

/-- The reference after an action. -/
def note (defaultTtl : Option Duration) (reference : Reference κ ν) : Action κ ν → Reference κ ν
  | .insert key value => reference.store key value defaultTtl
  | .insertWithTtl key value ttl => reference.store key value ttl
  | .advanceClock now => { reference with clock := now }
  | .cleanup => { reference with cleaned := reference.clock }
  | .clear => { reference with latest := fun _ => none, cleaned := reference.clock }

/-- The reference after the actions of a run. -/
def after (now : Instant) (defaultTtl : Option Duration) :
    List (Transition (HashTtlCache κ ν) (Action κ ν)) → Reference κ ν
  | [] => start now
  | transition :: past => (after now defaultTtl past).note defaultTtl transition.action

/-- The latest insertion of the key stored the value and has not expired. -/
def Live (reference : Reference κ ν) (key : κ) (value : ν) : Prop :=
  ∃ record, reference.latest key = some record ∧ record.value = value ∧
    ∀ expiration, record.expiration = some expiration → reference.clock < expiration

/-- No latest insertion has expired since the cache was cleaned last. -/
def NothingOverdue (reference : Reference κ ν) : Prop :=
  ∀ key record expiration, reference.latest key = some record →
    record.expiration = some expiration → expiration ≤ reference.clock →
      expiration ≤ reference.cleaned

end Reference

/-- The three ways to decide what is live agree: looking up, iterating, and returning the value
that an insertion replaces. Cleaning changes nothing that they see. -/
structure Agrees (cache : HashTtlCache κ ν) (reference : Reference κ ν) : Prop where
  iterates : ∀ key value, cache.get key = some value ↔ (key, value) ∈ cache.iter
  lives : ∀ key value, cache.get key = some value ↔ reference.Live key value
  cleans : ∃ cleaned, cache.cleanup = .ok cleaned ∧ (∀ key, cleaned.get key = cache.get key) ∧
    ∀ key value, (key, value) ∈ cleaned.iter ↔ (key, value) ∈ cache.iter
  replaces : ∀ key value ttl, ttl ≠ some 0 →
    ∃ cache' old, cache.insertWithTtl key value ttl = .ok (cache', old) ∧
      ∀ value', old = some value' ↔ reference.Live key value'

/-- What a cache stores is what was live when it was cleaned last. -/
structure Keeps (cache : HashTtlCache κ ν) (reference : Reference κ ν) : Prop where
  clock : cache.clock = reference.clock
  past : reference.cleaned ≤ reference.clock
  lookups : ∀ key, cache.map.lookup key =
    (reference.latest key).filter fun record => !record.hasExpired reference.cleaned

/-! ## What is live -/

variable {cache cache' : HashTtlCache κ ν} {reference : Reference κ ν} {key : κ} {value : ν}
  {record : Record ν}

omit [DecidableEq κ] in
/-- A record has expired when its expiration is not after now. -/
theorem Record.hasExpired_iff {now : Instant} :
    record.hasExpired now = true ↔ ∃ expiration, record.expiration = some expiration ∧
      expiration ≤ now := by
  unfold hasExpired
  cases record.expiration <;> simp

omit [DecidableEq κ] in
/-- What has expired stays expired. -/
theorem Record.hasExpired_mono {now later : Instant} (ordered : now ≤ later)
    (expired : record.hasExpired now = true) : record.hasExpired later = true := by
  obtain ⟨expiration, some, reached⟩ := Record.hasExpired_iff.mp expired
  exact Record.hasExpired_iff.mpr ⟨expiration, some, Nat.le_trans reached ordered⟩

omit [DecidableEq κ] in
/-- A value lives if it is the one stored last and has not expired. -/
theorem Reference.live_iff :
    reference.Live key value ↔ ∃ record, reference.latest key = some record ∧
      record.hasExpired reference.clock = false ∧ record.value = value := by
  constructor
  · rintro ⟨record, latest, rfl, ahead⟩
    refine ⟨record, latest, ?_, rfl⟩
    rw [Bool.eq_false_iff, Ne, Record.hasExpired_iff]
    rintro ⟨expiration, some, reached⟩
    exact absurd (ahead expiration some) (Nat.not_lt_of_le reached)
  · rintro ⟨record, latest, alive, rfl⟩
    refine ⟨record, latest, rfl, ?_⟩
    intro expiration some
    by_contra reached
    have expired := Record.hasExpired_iff.mpr ⟨expiration, some, Nat.le_of_not_lt reached⟩
    rw [alive] at expired
    cases expired

/-- `get` finds the value of the record. -/
theorem get_eq_some :
    cache.get key = some value ↔ ∃ record, cache.map.lookup key = some record ∧
      record.value = value := by
  simp [get]

namespace Keeps

/-- The map holds what was stored last and had not expired at the last cleaning. -/
theorem found_iff (keeps : cache.Keeps reference) :
    cache.map.lookup key = some record ↔
      reference.latest key = some record ∧ record.hasExpired reference.cleaned = false := by
  rw [keeps.lookups, Option.filter_eq_some_iff]
  simp

/-- Iterating yields exactly what is live. -/
theorem mem_iter_iff (keeps : cache.Keeps reference) :
    (key, value) ∈ cache.iter ↔ reference.Live key value := by
  rw [mem_iter, Reference.live_iff]
  constructor
  · rintro ⟨record, found, alive, rfl⟩
    rw [keeps.clock] at alive
    exact ⟨record, (keeps.found_iff.mp found).1, alive, rfl⟩
  · rintro ⟨record, latest, alive, rfl⟩
    have kept : record.hasExpired reference.cleaned = false :=
      Bool.eq_false_iff.mpr fun expired => by
        rw [Record.hasExpired_mono keeps.past expired] at alive
        cases alive
    refine ⟨record, keeps.found_iff.mpr ⟨latest, kept⟩, ?_, rfl⟩
    rwa [keeps.clock]

/-- What is left after cleaning is exactly what is live. -/
theorem cleaned (keeps : cache.Keeps reference) {cleaned : HashTtlCache κ ν}
    (reached : cache.cleanup = .ok cleaned) :
    cleaned.Keeps { reference with cleaned := reference.clock } ∧
      ∀ key value, cleaned.get key = some value ↔ reference.Live key value := by
  obtain ⟨_, reached', clock, -, lookups⟩ := cache.cleanup_ok
  cases reached.symm.trans reached'
  have found {key : κ} {record : Record ν} : cleaned.map.lookup key = some record ↔
      reference.latest key = some record ∧ record.hasExpired reference.clock = false := by
    rw [lookups, Option.filter_eq_some_iff, keeps.found_iff, keeps.clock]
    constructor
    · rintro ⟨⟨latest, -⟩, alive⟩
      exact ⟨latest, by simpa using alive⟩
    · rintro ⟨latest, alive⟩
      refine ⟨⟨latest, ?_⟩, by simpa using alive⟩
      refine Bool.eq_false_iff.mpr fun expired => ?_
      rw [Record.hasExpired_mono keeps.past expired] at alive
      cases alive
  constructor
  · refine ⟨clock.trans keeps.clock, Nat.le_refl _, ?_⟩
    intro key
    apply Option.ext
    intro record
    rw [found, Option.filter_eq_some_iff]
    simp
  · intro key value
    rw [get_eq_some, Reference.live_iff]
    simp only [found, and_assoc]

/-- An insertion returns what was live and stores its own value. -/
theorem inserted (keeps : cache.Keeps reference) (key : κ) (value : ν) {ttl : Option Duration}
    (positive : ttl ≠ some 0) :
    ∃ cache' old, cache.insertWithTtl key value ttl = .ok (cache', old) ∧
      cache'.defaultTtl = cache.defaultTtl ∧ cache'.Keeps (reference.store key value ttl) ∧
      ∀ value', old = some value' ↔ reference.Live key value' := by
  obtain ⟨cleaned, reached, stored⟩ := cache.insertWithTtl_ok key value positive
  obtain ⟨_, reached', -, ttl', -⟩ := cache.cleanup_ok
  cases reached.symm.trans reached'
  obtain ⟨kept, live⟩ := keeps.cleaned reached
  refine ⟨_, _, stored, ttl', ?_, live key⟩
  refine ⟨kept.clock, Nat.le_refl _, ?_⟩
  intro other
  rw [Table.lookup_insert_eq, Reference.store]
  dsimp only
  rw [Function.update_apply]
  by_cases same : other = key
  · -- The new entry expires after a positive time.
    have alive : (⟨value, ttl.map (reference.clock + ·)⟩ : Record ν).hasExpired reference.clock =
        false := by
      match ttl, positive with
      | none, _ => rfl
      | some 0, positive => exact absurd rfl positive
      | some (ttl + 1), _ => simp [Record.hasExpired]
    rw [if_pos same, if_pos same, keeps.clock, Option.filter_some, alive]
    rfl
  · rw [if_neg same, if_neg same]
    exact kept.lookups other

end Keeps

/-! ## Every run -/

/-- What a run keeps: the reference, and a default time to live that is positive. -/
structure Sound (defaultTtl : Option Duration) (reference : Reference κ ν)
    (cache : HashTtlCache κ ν) : Prop where
  keeps : cache.Keeps reference
  ttl : cache.defaultTtl = defaultTtl
  positive : defaultTtl ≠ some 0

variable {now : Instant} {defaultTtl ttl : Option Duration} {start : HashTtlCache κ ν}
  {past : List (Transition (HashTtlCache κ ν) (Action κ ν))} {action : Action κ ν}

/-- A new cache is empty. -/
theorem Sound.new (created : HashTtlCache.new now defaultTtl = .ok start) :
    start.Sound defaultTtl (.start now) := by
  unfold HashTtlCache.new assertPositive at created
  split at created
  · cases created
  · rename_i positive
    cases created
    exact ⟨⟨rfl, Nat.le_refl _, fun _ => rfl⟩, rfl, positive⟩

/-- An action that returns keeps the reference. -/
theorem Sound.step (sound : cache.Sound defaultTtl reference)
    (stepped : cache.step action = .ok cache') :
    cache'.Sound defaultTtl (reference.note defaultTtl action) := by
  obtain ⟨keeps, same, positive⟩ := sound
  have storing {key : κ} {value : ν} {ttl : Option Duration}
      (stored : (do
        let (cache, _) ← cache.insertWithTtl key value ttl
        return cache) = .ok cache') : cache'.Sound defaultTtl (reference.store key value ttl) := by
    by_cases zero : ttl = some 0
    · rw [insertWithTtl, assertPositive, if_pos zero] at stored
      cases stored
    · obtain ⟨_, old, inserted, ttl', kept, -⟩ := keeps.inserted key value zero
      rw [inserted] at stored
      cases stored
      exact ⟨kept, ttl'.trans same, positive⟩
  cases action with
  | insert key value =>
    rw [HashTtlCache.step, insert, same] at stepped
    exact storing stepped
  | insertWithTtl key value ttl => exact storing stepped
  | advanceClock now =>
    rw [HashTtlCache.step, advanceClock, keeps.clock] at stepped
    split at stepped
    · rename_i ordered
      cases stepped
      exact ⟨⟨rfl, Nat.le_trans keeps.past ordered, keeps.lookups⟩, same, positive⟩
    · cases stepped
  | cleanup =>
    obtain ⟨_, reached, -, ttl, -⟩ := cache.cleanup_ok
    cases stepped.symm.trans reached
    exact ⟨(keeps.cleaned reached).1, ttl.trans same, positive⟩
  | clear =>
    cases stepped
    exact ⟨⟨keeps.clock, Nat.le_refl _, fun _ => rfl⟩, same, positive⟩

/-- A cache is sound after every run, by induction on the run with `Sound.step`. -/
theorem Sound.run (created : HashTtlCache.new now defaultTtl = .ok start)
    (run : Run HashTtlCache.step start past cache) :
    cache.Sound defaultTtl (.after now defaultTtl past) :=
  run_invariant (fun past cache => cache.Sound defaultTtl (.after now defaultTtl past))
    (Sound.new created) (fun _ _ _ _ _ _ sound stepped => sound.step stepped) run (meets_true past)

/-- An action returns unless it sets no time to live or turns the clock back. -/
theorem Sound.step_returns (sound : cache.Sound defaultTtl reference)
    (positive : ∀ key value ttl, action = .insertWithTtl key value ttl → ttl ≠ some 0)
    (forwards : ∀ now, action = .advanceClock now → reference.clock ≤ now) :
    Returns (cache.step action) := by
  cases action with
  | insert key value =>
    obtain ⟨cache', old, inserted, -⟩ := sound.keeps.inserted key value (sound.ttl ▸ sound.positive)
    exact .bind inserted (.ok cache')
  | insertWithTtl key value ttl =>
    obtain ⟨cache', old, inserted, -⟩ := sound.keeps.inserted key value (positive _ _ _ rfl)
    exact .bind inserted (.ok cache')
  | advanceClock now =>
    exact ⟨_, if_pos (sound.keeps.clock ▸ forwards now rfl)⟩
  | cleanup =>
    obtain ⟨cleaned, reached, -⟩ := cache.cleanup_ok
    exact ⟨cleaned, reached⟩
  | clear => exact .ok _

/-! ## The reference semantics -/

/-- Nothing overdue: what is stored is what is live. -/
theorem Keeps.lives (keeps : cache.Keeps reference) (current : reference.NothingOverdue) :
    cache.get key = some value ↔ reference.Live key value := by
  rw [get_eq_some, Reference.live_iff]
  have same {key : κ} {record : Record ν} (latest : reference.latest key = some record) :
      record.hasExpired reference.cleaned = record.hasExpired reference.clock := by
    rw [Bool.eq_iff_iff]
    refine ⟨Record.hasExpired_mono keeps.past, fun expired => ?_⟩
    obtain ⟨expiration, some, reached⟩ := Record.hasExpired_iff.mp expired
    exact Record.hasExpired_iff.mpr
      ⟨expiration, some, current key record expiration latest some reached⟩
  constructor
  · rintro ⟨record, found, rfl⟩
    obtain ⟨latest, alive⟩ := keeps.found_iff.mp found
    exact ⟨record, latest, same latest ▸ alive, rfl⟩
  · rintro ⟨record, latest, alive, rfl⟩
    exact ⟨record, keeps.found_iff.mpr ⟨latest, (same latest).trans alive⟩, rfl⟩

/-- After every run, the cache agrees with the reference exactly if nothing has expired since it
was cleaned last.

Proof: by `Keeps` the cache holds, of the latest records, those that had not expired
when it was cleaned last. If nothing has expired since, both answer alike; otherwise
`get` still returns the value of a record that is no longer live in the reference. -/
theorem agrees_iff (created : new now defaultTtl = .ok start) (run : Run step start past cache) :
    cache.Agrees (.after now defaultTtl past) ↔
      (Reference.after now defaultTtl past).NothingOverdue := by
  have keeps := (Sound.run created run).keeps
  constructor
  · intro agrees key record expiration latest some reached
    by_contra later
    have kept : record.hasExpired (Reference.after now defaultTtl past).cleaned = false := by
      refine Bool.eq_false_iff.mpr fun expired => ?_
      obtain ⟨expiration', some', reached'⟩ := Record.hasExpired_iff.mp expired
      cases some.symm.trans some'
      exact later reached'
    have found := get_eq_some.mpr ⟨record, keeps.found_iff.mpr ⟨latest, kept⟩, rfl⟩
    obtain ⟨record', latest', -, ahead⟩ := (agrees.lives key record.value).mp found
    cases latest.symm.trans latest'
    exact absurd (ahead expiration some) (Nat.not_lt_of_le reached)
  · intro current
    have lives (key : κ) (value : ν) := @Keeps.lives _ _ _ _ _ key value keeps current
    obtain ⟨cleaned, reached, -⟩ := cache.cleanup_ok
    obtain ⟨kept, left⟩ := keeps.cleaned reached
    refine ⟨fun key value => ?_, lives, ⟨cleaned, reached, ?_, ?_⟩, ?_⟩
    · rw [lives, keeps.mem_iter_iff]
    · intro key
      apply Option.ext
      intro value
      rw [left, lives]
    · intro key value
      rw [kept.mem_iter_iff, keeps.mem_iter_iff]
      rfl
    · intro key value ttl positive
      obtain ⟨cache', old, inserted, -, -, live⟩ := keeps.inserted key value positive
      exact ⟨cache', old, inserted, live⟩

/-- A cache in which the key 1 has the value 2 until the time 5, at a given time. -/
def stored (clock : Instant) : HashTtlCache Nat Nat :=
  ⟨(∅ : Table Nat (Record Nat)).insert 1 ⟨2, some 5⟩, ∅, none, clock⟩

/-- One value is stored for five units of time. -/
theorem run_stored :
    Run step (⟨∅, ∅, none, 0⟩ : HashTtlCache Nat Nat)
      [⟨⟨∅, ∅, none, 0⟩, .insertWithTtl 1 2 (some 5), stored 0⟩] (stored 0) :=
  .step _ .nil rfl

/-- The first of two entries has expired, and the cache has been cleaned since. -/
theorem agrees_cleaned :
    ∃ past cache, execute step ([], (⟨∅, ∅, none, 0⟩ : HashTtlCache Nat Nat))
        [.insertWithTtl 1 2 (some 5), .insertWithTtl 3 4 (some 9), .advanceClock 6, .cleanup] =
          .ok (past, cache) ∧
      cache.get 1 = none ∧ cache.get 3 = some 4 ∧ cache.Agrees (.after 0 none past) := by
  have executed : ∃ past cache, execute step ([], (⟨∅, ∅, none, 0⟩ : HashTtlCache Nat Nat))
        [.insertWithTtl 1 2 (some 5), .insertWithTtl 3 4 (some 9), .advanceClock 6, .cleanup] =
          .ok (past, cache) ∧
      cache.get 1 = none ∧ cache.get 3 = some 4 ∧
        (Reference.after 0 none past).cleaned = (Reference.after 0 none past).clock :=
    ⟨_, _, rfl, rfl, rfl, rfl⟩
  obtain ⟨past, cache, executed, gone, kept, cleaned⟩ := executed
  refine ⟨past, cache, executed, gone, kept, (agrees_iff rfl (run_of_execute .nil executed)).mpr ?_⟩
  intro key record expiration _ _ reached
  rw [cleaned]
  exact reached

/-- An entry that has expired is still looked up. -/
theorem not_agrees :
    ¬ ∀ (now : Instant) (defaultTtl : Option Duration) (start cache : HashTtlCache Nat Nat)
      (past : List (Transition (HashTtlCache Nat Nat) (Action Nat Nat))),
      new now defaultTtl = .ok start → Run step start past cache →
        cache.Agrees (.after now defaultTtl past) := by
  intro claimed
  have agrees := claimed 0 none _ (stored 5) _ rfl (.step (.advanceClock 5) run_stored rfl)
  have yielded := (agrees.iterates 1 2).mp rfl
  exact absurd yielded (by decide)

end HashTtlCache

end Capybara
