import Mathlib.Data.List.Basic

/-!
# Assignment in turn

Arrivals are assigned to servers by the order of their first appearance: the first to the
first server, the next to the next one, and after a given number of servers from the
beginning again. An assignment does not change when others arrive.
-/

namespace RoundRobin

universe u v
variable {α : Type u} {β : Type v} [DecidableEq α]

/-- The server of an arrival, if there is one at its turn. -/
def assigned (servers : List β) (count : Nat) (arrivals : List α) (arrival : α) : Option β :=
  servers[arrivals.idxOf arrival % count]?

variable {servers : List β} {count : Nat} {arrivals : List α} {arrival : α}

/-- Who has arrived keeps the server. -/
theorem assigned_append (present : arrival ∈ arrivals) (later : List α) :
    assigned servers count (arrivals ++ later) arrival = assigned servers count arrivals arrival := by
  rw [assigned, List.idxOf_append_of_mem present, assigned]

/-- Who arrives gets the server at its turn. -/
theorem assigned_new (absent : arrival ∉ arrivals) :
    assigned servers count (arrivals ++ [arrival]) arrival = servers[arrivals.length % count]? := by
  rw [assigned, List.idxOf_append_of_notMem absent, List.idxOf_cons_self, Nat.add_zero]

/-- Only the given number of servers take turns. -/
theorem mem_of_assigned (some_ : 0 < count) {server : β}
    (chosen : assigned servers count arrivals arrival = some server) : server ∈ servers.take count := by
  refine List.mem_of_getElem? (i := arrivals.idxOf arrival % count) ?_
  rw [List.getElem?_take_of_lt (Nat.mod_lt _ some_)]
  exact chosen

end RoundRobin
