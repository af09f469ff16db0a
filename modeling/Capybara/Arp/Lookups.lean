import Capybara.Arp.Peer

/-!
# Queries on their own

What a query is for, without the waiters that the peer keeps: it answers from the cache, or
waits for the first mapping of its address and gives up once its own attempts are over. Each
query keeps what it has been told and sees nothing of the others.
-/

namespace Capybara

/-- A query on its own. -/
inductive ArpLookup where
  | created (ipv4Addr : Ipv4Addr)
  /-- It waits, or has been told the mapping and is to be polled. -/
  | pending (ipv4Addr : Ipv4Addr) (mapping : Option MacAddress) (left : Nat) (expiry : Instant)
  | completed (result : Except Fail MacAddress)
  deriving DecidableEq, Repr

namespace ArpLookup

variable (config : ArpConfig) (now : Instant)

/-- All attempts are over: the present one, and those left when they take no time. -/
def Exhausted (left : Nat) (expiry : Instant) : Prop :=
  expiry ≤ now ∧ (left = 0 ∨ config.requestTimeout = 0)

instance (left : Nat) (expiry : Instant) : Decidable (Exhausted config now left expiry) :=
  inferInstanceAs (Decidable (_ ∧ _))

/-- The wait for a mapping. An attempt that has expired is followed by the next one. -/
def wait (ipv4Addr : Ipv4Addr) (left : Nat) (expiry : Instant) : ArpLookup :=
  if now < expiry then .pending ipv4Addr none left expiry
  else match left with
  | 0 => .completed (.error ⟨.ETIMEDOUT, "ARP query timeout"⟩)
  | left + 1 => wait ipv4Addr left (now + config.requestTimeout)

/-- A poll, with the mappings that are cached. -/
def poll (cached : Ipv4Addr → Option MacAddress) : ArpLookup → ArpLookup
  | .created ipv4Addr =>
    match cached ipv4Addr with
    | some linkAddr => .completed (.ok linkAddr)
    | none => wait config now ipv4Addr config.retryCount (now + config.requestTimeout)
  | .pending _ (some linkAddr) _ _ => .completed (.ok linkAddr)
  | .pending ipv4Addr none left expiry => wait config now ipv4Addr left expiry
  | .completed result => .completed result

/-- A mapping is inserted; the first one for its address is what a query waits for. -/
def mapped (ipv4Addr : Ipv4Addr) (linkAddr : MacAddress) : ArpLookup → ArpLookup
  | .pending awaited none left expiry =>
    .pending awaited (if awaited = ipv4Addr then some linkAddr else none) left expiry
  | lookup => lookup

/-- What a query has completed with. -/
def result : ArpLookup → Option (Except Fail MacAddress)
  | .completed result => some result
  | _ => none

variable {config now}

/-- An attempt that has expired leaves it to the next one whether all are over. -/
theorem exhausted_succ {left : Nat} {expiry : Instant} (expired : ¬ now < expiry) :
    Exhausted config now (left + 1) expiry ↔
      Exhausted config now left (now + config.requestTimeout) := by
  have instant : now + config.requestTimeout ≤ now ↔ config.requestTimeout = 0 :=
    ⟨fun reached => Nat.add_eq_left.mp (Nat.le_antisymm reached (Nat.le_add_right _ _)),
      fun none => by rw [none]; exact Nat.le_refl _⟩
  have past : expiry ≤ now := Nat.le_of_not_lt expired
  constructor
  · rintro ⟨-, none | none⟩
    · exact absurd none (Nat.succ_ne_zero _)
    · exact ⟨instant.mpr none, .inr none⟩
  · rintro ⟨reached, -⟩
    exact ⟨past, .inr (instant.mp reached)⟩

/-- The wait ends when all attempts are over, and goes on otherwise. -/
theorem wait_cases (ipv4Addr : Ipv4Addr) (left : Nat) (expiry : Instant) :
    (Exhausted config now left expiry ∧ wait config now ipv4Addr left expiry =
      .completed (.error ⟨.ETIMEDOUT, "ARP query timeout"⟩)) ∨
    (¬ Exhausted config now left expiry ∧ ∃ left' expiry',
      wait config now ipv4Addr left expiry = .pending ipv4Addr none left' expiry') := by
  induction left generalizing expiry with
  | zero =>
    unfold wait
    by_cases running : now < expiry
    · rw [if_pos running]
      exact .inr ⟨fun exhausted => absurd exhausted.1 (Nat.not_le_of_lt running), _, _, rfl⟩
    · rw [if_neg running]
      exact .inl ⟨⟨Nat.le_of_not_lt running, .inl rfl⟩, rfl⟩
  | succ left inductionHypothesis =>
    unfold wait
    by_cases running : now < expiry
    · rw [if_pos running]
      exact .inr ⟨fun exhausted => absurd exhausted.1 (Nat.not_le_of_lt running), _, _, rfl⟩
    · rw [if_neg running, exhausted_succ running]
      exact inductionHypothesis _

end ArpLookup

/-- What happens to the queries. -/
inductive LookupEvent where
  | created (ipv4Addr : Ipv4Addr)
  | polled (query : QueryId) (now : Instant) (cached : Ipv4Addr → Option MacAddress)
  | mapped (ipv4Addr : Ipv4Addr) (linkAddr : MacAddress)
  | nothing

/-- The queries after an event. -/
def LookupEvent.apply (config : ArpConfig) (lookups : List ArpLookup) :
    LookupEvent → List ArpLookup
  | .created ipv4Addr => lookups ++ [.created ipv4Addr]
  | .polled query now cached => lookups.modify query (ArpLookup.poll config now cached)
  | .mapped ipv4Addr linkAddr => lookups.map (ArpLookup.mapped ipv4Addr linkAddr)
  | .nothing => lookups

end Capybara
