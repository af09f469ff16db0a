import Capybara.Arp.Lookups
import Capybara.Lib.Runs

/-!
# Are queries independent?

The queries of a peer are compared with queries on their own. A query that waits has its
mapping in its channel, or stands in the list of waiters for its address with an empty
channel; so the channels tell what each query on its own has been told.

Giving up removes the whole list of the address. This harms nobody when the list has no other
query, and closes the channel of every other one otherwise: such a query panics when its
channel is looked at. The second way in which a query can differ from one on its own is its
own `select!`, which may choose the timer of the last attempt although the mapping is there.
-/

namespace Capybara

open Tables Runs

/-- What the queries have been told, by the state of their channels. -/
def ArpChannel.mapping : ArpChannel → Option MacAddress
  | .sent linkAddr => some linkAddr
  | _ => none

/-- The query on its own that a future stands for. -/
def ArpQuery.lookup (channel : ArpChannel) : ArpQuery → ArpLookup
  | .created ipv4Addr => .created ipv4Addr
  | .waiting ipv4Addr left expiry => .pending ipv4Addr channel.mapping left expiry
  | .completed result => .completed result

/-- What a future has completed with. -/
def ArpQuery.result : ArpQuery → Option (Except Fail MacAddress)
  | .completed result => some result
  | _ => none

/-- The queries waiting for an address. -/
def ArpPeer.waitQueue (peer : ArpPeer) (ipv4Addr : Ipv4Addr) : List QueryId :=
  (peer.waiters.lookup ipv4Addr).getD []

/-- The mapping that a received packet inserts. -/
def ArpPeer.learned (peer : ArpPeer) (buf : Buffer) : Option (Ipv4Addr × MacAddress) :=
  match ArpHeader.parse buf with
  | .error _ => none
  | .ok header =>
    if (peer.cache.get header.senderProtocolAddr).isSome ∨
        header.targetProtocolAddr = peer.localIpv4Addr then
      some (header.senderProtocolAddr, header.senderHardwareAddr)
    else none

namespace ArpQueries

/-- A step that has been taken. -/
abbrev Transition := Runs.Transition ArpQueries ArpAction

/-- The states reached from a new peer. -/
abbrev Run (profile : Profile) (peer : ArpPeer) : List Transition → ArpQueries → Prop :=
  Runs.Run (step profile) (start peer)

/-- What an action means for the queries on their own. -/
def event (state : ArpQueries) : ArpAction → LookupEvent
  | .query ipv4Addr => .created ipv4Addr
  | .poll query _ => .polled query state.peer.clock state.peer.cache.get
  | .receive buf =>
    match state.peer.learned buf with
    | some (ipv4Addr, linkAddr) => .mapped ipv4Addr linkAddr
    | none => .nothing
  | .insert ipv4Addr linkAddr => .mapped ipv4Addr linkAddr
  | .advance _ => .nothing
  | .background => .nothing

/-- The queries on their own after what has happened. -/
def expected : List Transition → List ArpLookup
  | [] => []
  | transition :: past =>
    (transition.source.event transition.action).apply transition.source.peer.arpConfig
      (expected past)

/-- Every query has completed as it would have done on its own, none can panic, and an address
has waiters only while a query for it is pending. -/
structure Independent (profile : Profile) (past : List Transition) (state : ArpQueries) :
    Prop where
  results : state.queries.map ArpQuery.result = (expected past).map ArpLookup.result
  survives : ∀ query timerFirst, ∃ target, step profile state (.poll query timerFirst) = .ok target
  awaited : ∀ ipv4Addr ∈ state.peer.waiters, ∃ (query : QueryId) (left : Nat) (expiry : Instant),
    state.queries[query]? = some (.waiting ipv4Addr left expiry)

/-- No other query waits for the address. -/
def Alone (state : ArpQueries) (query : QueryId) (ipv4Addr : Ipv4Addr) : Prop :=
  ∀ other ∈ state.peer.waitQueue ipv4Addr, other = query

/-- If all attempts of a query are over: its mapping has come and the channel is looked at
first in one of those left, or no other query waits for the address. -/
def Spares (state : ArpQueries) (query : QueryId) (timerFirst : Nat → Bool)
    (ipv4Addr : Ipv4Addr) (left : Nat) (expiry : Instant) (channel : ArpChannel) : Prop :=
  ArpLookup.Exhausted state.peer.arpConfig state.peer.clock left expiry →
    match channel with
    | .sent _ => ∃ turn ≤ left, timerFirst turn = false
    | _ => state.Alone query ipv4Addr

instance (state : ArpQueries) (query : QueryId) (timerFirst : Nat → Bool) (ipv4Addr : Ipv4Addr)
    (left : Nat) (expiry : Instant) :
    (channel : ArpChannel) → Decidable (state.Spares query timerFirst ipv4Addr left expiry channel)
  | .sent _ => inferInstanceAs (Decidable (_ → ∃ turn, turn ≤ left ∧ timerFirst turn = false))
  | .empty => inferInstanceAs (Decidable (_ → ∀ other ∈ _, _))
  | .closed => inferInstanceAs (Decidable (_ → ∀ other ∈ _, _))

/-- A poll of a future that harms no query. One that begins to wait does so with an empty
channel. -/
def PollSpares (state : ArpQueries) (query : QueryId) (timerFirst : Nat → Bool) :
    Option ArpQuery → Prop
  | some (.created ipv4Addr) => state.peer.cache.get ipv4Addr = none →
    state.Spares query timerFirst ipv4Addr state.peer.arpConfig.retryCount
      (state.peer.clock + state.peer.arpConfig.requestTimeout) .empty
  | some (.waiting ipv4Addr left expiry) =>
    state.Spares query timerFirst ipv4Addr left expiry (state.peer.channels query)
  | some (.completed _) => True
  | none => True

instance (state : ArpQueries) (query : QueryId) (timerFirst : Nat → Bool) :
    (future : Option ArpQuery) → Decidable (state.PollSpares query timerFirst future)
  | some (.created _) => inferInstanceAs (Decidable (_ → Spares _ _ _ _ _ _ _))
  | some (.waiting _ _ _) => inferInstanceAs (Decidable (Spares _ _ _ _ _ _ _))
  | some (.completed _) => .isTrue trivial
  | none => .isTrue trivial

/-- An action that harms no query. -/
def SparesOthers (state : ArpQueries) : ArpAction → Prop
  | .poll query timerFirst => state.PollSpares query timerFirst state.queries[query]?
  | _ => True

instance (state : ArpQueries) : (action : ArpAction) → Decidable (state.SparesOthers action)
  | .poll _ _ => inferInstanceAs (Decidable (PollSpares _ _ _ _))
  | .query _ => .isTrue trivial
  | .receive _ => .isTrue trivial
  | .insert _ _ => .isTrue trivial
  | .advance _ => .isTrue trivial
  | .background => .isTrue trivial

end ArpQueries

/-! ## What the operations of the peer do -/

namespace ArpPeer

/-- Settling some queries one after the other settles each of their channels, by induction on
the queries. -/
theorem foldl_settle {channel : ArpChannel} {settle : ArpPeer → QueryId → ArpPeer}
    (settles : ∀ peer query, settle peer query =
      { peer with channels := Function.update peer.channels query channel })
    (queries : List QueryId) (peer : ArpPeer) :
    queries.foldl settle peer = { peer with
      channels := fun query => if query ∈ queries then channel else peer.channels query } := by
  induction queries generalizing peer with
  | nil => simp
  | cons query queries inductionHypothesis =>
    rw [List.foldl_cons, inductionHypothesis, settles]
    congr 1
    funext other
    by_cases later : other ∈ queries
    · simp [later]
    · by_cases first : other = query
      · simp [first]
      · simp [later, first]

/-- `do_drop` closes the channels of all waiters of the address. -/
theorem doDrop_eq (peer : ArpPeer) (ipv4Addr : Ipv4Addr) :
    peer.doDrop ipv4Addr = { peer with
      waiters := peer.waiters.erase ipv4Addr
      channels := fun query =>
        if query ∈ peer.waitQueue ipv4Addr then .closed else peer.channels query } :=
  foldl_settle (fun _ _ => rfl) _ _

/-- The waiters of the address have been sent the mapping. -/
structure Maps (peer : ArpPeer) (ipv4Addr : Ipv4Addr) (linkAddr : MacAddress)
    (after : ArpPeer) : Prop where
  arpConfig : after.arpConfig = peer.arpConfig
  waiters : after.waiters = peer.waiters.erase ipv4Addr
  channels : after.channels = fun query =>
    if query ∈ peer.waitQueue ipv4Addr then .sent linkAddr else peer.channels query

/-- `do_insert` sends the mapping to all waiters of the address. -/
theorem doInsert_ok {peer after : ArpPeer} {ipv4Addr : Ipv4Addr} {linkAddr : MacAddress}
    (inserted : peer.doInsert ipv4Addr linkAddr = .ok after) :
    peer.Maps ipv4Addr linkAddr after := by
  have settled := @foldl_settle (.sent linkAddr) (·.send linkAddr ·) fun _ _ => rfl
  simp only [doInsert, settled, bind, Except.bind] at inserted
  split at inserted
  · cases inserted
  · cases inserted
    exact ⟨rfl, rfl, rfl⟩

/-- A packet that inserts no mapping leaves the peer as it is. -/
theorem receive_nothing {peer after : ArpPeer} {buf : Buffer} {result : Except Fail Unit}
    (nothing : peer.learned buf = none) (received : peer.receive buf = .ok (after, result)) :
    after = peer := by
  unfold learned at nothing
  unfold receive at received
  cases parsed : ArpHeader.parse buf with
  | error fail =>
    rw [parsed] at received
    cases received
    rfl
  | ok header =>
    rw [parsed] at nothing received
    dsimp only at nothing received
    split at nothing
    · cases nothing
    · rename_i unknown
      obtain ⟨uncached, elsewhere⟩ := not_or.mp unknown
      simp only [uncached, Bool.false_eq_true, if_false, pure_bind, if_pos elsewhere] at received
      cases received
      rfl

/-- The answer to a packet changes neither waiters nor channels. -/
theorem Maps.answer {peer peer' after : ArpPeer} {ipv4Addr : Ipv4Addr} {linkAddr : MacAddress}
    {header : ArpHeader} (maps : peer.Maps ipv4Addr linkAddr peer')
    (answered : peer'.answer header = .ok after) : peer.Maps ipv4Addr linkAddr after := by
  unfold ArpPeer.answer at answered
  split at answered
  · cases answered
    exact ⟨maps.arpConfig, maps.waiters, maps.channels⟩
  · simp only [bind, Except.bind] at answered
    split at answered
    · cases answered
    · cases answered
      exact ⟨maps.arpConfig, maps.waiters, maps.channels⟩

/-- Any other packet is an insertion of its mapping. -/
theorem receive_learned {peer after : ArpPeer} {buf : Buffer} {result : Except Fail Unit}
    {ipv4Addr : Ipv4Addr} {linkAddr : MacAddress}
    (learned : peer.learned buf = some (ipv4Addr, linkAddr))
    (received : peer.receive buf = .ok (after, result)) : peer.Maps ipv4Addr linkAddr after := by
  unfold ArpPeer.learned at learned
  unfold receive at received
  cases parsed : ArpHeader.parse buf with
  | error fail =>
    rw [parsed] at learned
    cases learned
  | ok header =>
    rw [parsed] at learned received
    dsimp only at learned received
    split at learned
    · rename_i known
      cases learned
      cases cached : (peer.cache.get header.senderProtocolAddr).isSome with
      | true =>
        simp only [cached, if_true, pure_bind] at received
        simp only [bind, Except.bind] at received
        split at received
        · cases received
        · rename_i peer' inserted
          have maps := doInsert_ok inserted
          split at received
          · cases received
            exact maps
          · split at received
            · cases received
            · rename_i answered
              cases received
              exact maps.answer answered
      | false =>
        rw [cached] at known
        have aimed := known.resolve_left Bool.false_ne_true
        simp only [cached, Bool.false_eq_true, if_false, pure_bind, aimed, ne_eq,
          not_true_eq_false] at received
        simp only [bind, Except.bind] at received
        split at received
        · cases received
        · rename_i peer' inserted
          split at received
          · cases received
          · rename_i answered
            cases received
            exact (doInsert_ok inserted).answer answered
    · cases learned

/-! ## What a poll does -/

section Attempts

variable {query : QueryId} {ipv4Addr : Ipv4Addr} {timerFirst : Nat → Bool} {peer : ArpPeer}

/-- The result of a query that gives up. -/
def TIMED_OUT : Except Fail MacAddress := .error ⟨.ETIMEDOUT, "ARP query timeout"⟩

/-- What follows an attempt that has timed out. -/
def afterTimeout (peer : ArpPeer) (query : QueryId) (ipv4Addr : Ipv4Addr)
    (timerFirst : Nat → Bool) : Nat → Checked (ArpPeer × ArpQuery)
  | 0 => .ok (peer.doDrop ipv4Addr, .completed TIMED_OUT)
  | left + 1 =>
    attempt query ipv4Addr timerFirst (peer.transmit (peer.request ipv4Addr)) left
      (peer.clock + peer.arpConfig.requestTimeout)

/-- An attempt that has set its timer goes on with what its channel says after the timer. -/
theorem attempt_eq (left : Nat) (expiry : Instant) :
    peer.attempt query ipv4Addr timerFirst left expiry =
      peer.await query ipv4Addr (timerFirst left) left expiry
        (peer.afterTimeout query ipv4Addr timerFirst left) := by
  cases left with
  | zero => rfl
  | succ left => rfl

/-- With an empty channel an attempt waits until its timer expires. -/
theorem attempt_empty (empty : peer.channels query = .empty) (left : Nat) (expiry : Instant) :
    peer.attempt query ipv4Addr timerFirst left expiry =
      if peer.clock < expiry then .ok (peer, .waiting ipv4Addr left expiry)
      else peer.afterTimeout query ipv4Addr timerFirst left := by
  have selected : ∀ timerFirst expired, ArpChannel.empty.withTimeout timerFirst expired =
      .ok (if expired then .timedOut else .pending) := by decide
  rw [attempt_eq, await, empty, selected]
  by_cases running : peer.clock < expiry
  · rw [if_pos running, decide_eq_false (Nat.not_le_of_lt running)]
    rfl
  · rw [if_neg running, decide_eq_true (Nat.le_of_not_lt running)]
    rfl

/-- With a mapping in its channel an attempt ends with it, unless its timer has expired and is
looked at first. -/
theorem attempt_sent {linkAddr : MacAddress} (sent : peer.channels query = .sent linkAddr)
    (left : Nat) (expiry : Instant) :
    peer.attempt query ipv4Addr timerFirst left expiry =
      if timerFirst left = true ∧ ¬ peer.clock < expiry then
        peer.afterTimeout query ipv4Addr timerFirst left
      else .ok (peer, .completed (.ok linkAddr)) := by
  have selected : ∀ timerFirst expired, (ArpChannel.sent linkAddr).withTimeout timerFirst expired =
      .ok (if timerFirst && expired then .timedOut else .response linkAddr) := by
    intro timerFirst expired
    cases timerFirst with
    | false => rfl
    | true =>
      cases expired with
      | false => rfl
      | true => rfl
  rw [attempt_eq, await, sent, selected]
  by_cases missed : timerFirst left = true ∧ ¬ peer.clock < expiry
  · rw [if_pos missed, missed.1, decide_eq_true (Nat.le_of_not_lt missed.2)]
    rfl
  · have answered : (timerFirst left && decide (expiry ≤ peer.clock)) = false := by
      rw [Bool.eq_false_iff]
      intro both
      obtain ⟨first, expired⟩ := Bool.and_eq_true_iff.mp both
      exact missed ⟨first, Nat.not_lt_of_le (of_decide_eq_true expired)⟩
    rw [if_neg missed, answered]
    rfl

/-- Without a sender an attempt whose channel is looked at first panics. -/
theorem attempt_closed (closed : peer.channels query = .closed)
    (channelFirst : ∀ turn, timerFirst turn = false) (left : Nat) (expiry : Instant) :
    peer.attempt query ipv4Addr timerFirst left expiry = .error .droppedWaiter := by
  rw [attempt_eq, await, closed, channelFirst]
  rfl

/-- With an empty channel, the attempts are those of a query on its own, which gives up when
they are over. -/
theorem attempts_empty (empty : peer.channels query = .empty) (left : Nat) (expiry : Instant) :
    (ArpLookup.Exhausted peer.arpConfig peer.clock left expiry ∧ ∃ transmitted,
      peer.attempt query ipv4Addr timerFirst left expiry =
        .ok ({ peer with transmitted }.doDrop ipv4Addr, .completed TIMED_OUT)) ∨
    (¬ ArpLookup.Exhausted peer.arpConfig peer.clock left expiry ∧
      ∃ transmitted left' expiry', peer.attempt query ipv4Addr timerFirst left expiry =
        .ok ({ peer with transmitted }, .waiting ipv4Addr left' expiry') ∧
      ArpLookup.wait peer.arpConfig peer.clock ipv4Addr left expiry =
        .pending ipv4Addr none left' expiry') := by
  induction left generalizing peer expiry with
  | zero =>
    rw [attempt_empty empty, ArpLookup.wait]
    by_cases running : peer.clock < expiry
    · rw [if_pos running, if_pos running]
      exact .inr ⟨fun exhausted => absurd exhausted.1 (Nat.not_le_of_lt running), _, _, _, rfl, rfl⟩
    · rw [if_neg running]
      exact .inl ⟨⟨Nat.le_of_not_lt running, .inl rfl⟩, _, rfl⟩
  | succ left inductionHypothesis =>
    rw [attempt_empty empty, ArpLookup.wait]
    by_cases running : peer.clock < expiry
    · rw [if_pos running, if_pos running]
      exact .inr ⟨fun exhausted => absurd exhausted.1 (Nat.not_le_of_lt running), _, _, _, rfl, rfl⟩
    · rw [if_neg running, if_neg running, ArpLookup.exhausted_succ running]
      exact @inductionHypothesis (peer.transmit (peer.request ipv4Addr)) empty _

/-- With a mapping in its channel a query completes with it, unless the timer is looked at
first in all attempts that are left and they are over. -/
theorem attempts_sent {linkAddr : MacAddress} (sent : peer.channels query = .sent linkAddr)
    (left : Nat) (expiry : Instant) :
    (ArpLookup.Exhausted peer.arpConfig peer.clock left expiry ∧
      (∀ turn ≤ left, timerFirst turn = true) ∧
      ∃ transmitted, peer.attempt query ipv4Addr timerFirst left expiry =
        .ok ({ peer with transmitted }.doDrop ipv4Addr, .completed TIMED_OUT)) ∨
    ((ArpLookup.Exhausted peer.arpConfig peer.clock left expiry →
        ∃ turn ≤ left, timerFirst turn = false) ∧
      ∃ transmitted, peer.attempt query ipv4Addr timerFirst left expiry =
        .ok ({ peer with transmitted }, .completed (.ok linkAddr))) := by
  induction left generalizing peer expiry with
  | zero =>
    rw [attempt_sent sent]
    by_cases missed : timerFirst 0 = true ∧ ¬ peer.clock < expiry
    · rw [if_pos missed]
      refine .inl ⟨⟨Nat.le_of_not_lt missed.2, .inl rfl⟩, fun turn last => ?_, _, rfl⟩
      rw [Nat.le_zero.mp last]
      exact missed.1
    · rw [if_neg missed]
      refine .inr ⟨fun exhausted => ⟨0, Nat.le_refl _, ?_⟩, _, rfl⟩
      rw [Bool.eq_false_iff]
      exact fun first => missed ⟨first, Nat.not_lt_of_le exhausted.1⟩
  | succ left inductionHypothesis =>
    rw [attempt_sent sent]
    by_cases missed : timerFirst (left + 1) = true ∧ ¬ peer.clock < expiry
    · rw [if_pos missed, ArpLookup.exhausted_succ missed.2]
      obtain ⟨exhausted, all, gaveUp⟩ | ⟨some, answered⟩ :=
        @inductionHypothesis (peer.transmit (peer.request ipv4Addr)) sent
          (peer.clock + peer.arpConfig.requestTimeout)
      · refine .inl ⟨exhausted, fun turn within => ?_, gaveUp⟩
        obtain earlier | rfl := Nat.le_succ_iff.mp within
        · exact all turn earlier
        · exact missed.1
      · refine .inr ⟨fun exhausted => ?_, answered⟩
        obtain ⟨turn, within, channelFirst⟩ := some exhausted
        exact ⟨turn, Nat.le_succ_of_le within, channelFirst⟩
    · rw [if_neg missed]
      refine .inr ⟨fun exhausted => ⟨left + 1, Nat.le_refl _, ?_⟩, _, rfl⟩
      rw [Bool.eq_false_iff]
      exact fun first => missed ⟨first, Nat.not_lt_of_le exhausted.1⟩

end Attempts

end ArpPeer

/-! ## The waiters and the queries -/

namespace ArpQueries

/-- The queries on their own that the state stands for. -/
def lookups (state : ArpQueries) : List ArpLookup :=
  state.queries.mapIdx fun query future => future.lookup (state.peer.channels query)

/-- A waiting query has its mapping, or waits in the list of its address with an empty channel;
the lists have no other queries, and none of them is empty. -/
structure Registered (state : ArpQueries) : Prop where
  waiting : ∀ query ipv4Addr left expiry,
    state.queries[query]? = some (.waiting ipv4Addr left expiry) →
      (∃ linkAddr, state.peer.channels query = .sent linkAddr) ∨
      (state.peer.channels query = .empty ∧ query ∈ state.peer.waitQueue ipv4Addr)
  listed : ∀ ipv4Addr, ∀ query ∈ state.peer.waitQueue ipv4Addr,
    state.peer.channels query = .empty ∧
      ∃ left expiry, state.queries[query]? = some (.waiting ipv4Addr left expiry)
  occupied : ∀ ipv4Addr ∈ state.peer.waiters, state.peer.waitQueue ipv4Addr ≠ []

/-- The lookup of a query is seen in its future and its channel. -/
theorem getElem?_lookups (state : ArpQueries) (query : QueryId) :
    state.lookups[query]? =
      state.queries[query]?.map fun future => future.lookup (state.peer.channels query) :=
  List.getElem?_mapIdx

/-- Changing one query and no channel of the others changes one query on its own. -/
theorem lookups_set {state : ArpQueries} {peer : ArpPeer} {query : QueryId} {future : ArpQuery}
    (others : ∀ other future, other ≠ query → state.queries[other]? = some future →
      future.lookup (peer.channels other) = future.lookup (state.peer.channels other)) :
    (⟨peer, state.queries.set query future⟩ : ArpQueries).lookups =
      state.lookups.set query (future.lookup (peer.channels query)) := by
  refine List.ext_getElem? fun other => ?_
  rw [getElem?_lookups, List.getElem?_set, List.getElem?_set]
  by_cases same : query = other
  · subst same
    rw [if_pos rfl, if_pos rfl, lookups, List.length_mapIdx]
    split
    · rfl
    · rfl
  · rw [if_neg same, if_neg same, getElem?_lookups]
    cases found : state.queries[other]? with
    | none => rfl
    | some future => exact congrArg some (others other future (Ne.symm same) found)

/-- The results are those of the queries on their own. -/
theorem map_result_lookups (state : ArpQueries) :
    state.lookups.map ArpLookup.result = state.queries.map ArpQuery.result := by
  refine List.ext_getElem? fun query => ?_
  rw [List.getElem?_map, List.getElem?_map, getElem?_lookups]
  cases state.queries[query]? with
  | none => rfl
  | some future =>
    cases future with
    | created => rfl
    | waiting => rfl
    | completed => rfl

/-- Writing what is there changes nothing. -/
theorem set_found {α : Type} {values : List α} {index : Nat} {value : α}
    (found : values[index]? = some value) : values.set index value = values := by
  obtain ⟨inside, rfl⟩ := List.getElem?_eq_some_iff.mp found
  exact List.set_getElem_self inside

/-- Writing a future that is there writes this one. -/
theorem getElem?_set_of_found {queries : List ArpQuery} {query : QueryId} {old : ArpQuery}
    (found : queries[query]? = some old) (future : ArpQuery) (other : QueryId) :
    (queries.set query future)[other]? = if other = query then some future else queries[other]? := by
  rw [List.getElem?_set]
  by_cases same : query = other
  · subst same
    rw [if_pos rfl, if_pos rfl, if_pos (List.getElem?_eq_some_iff.mp found).1]
  · rw [if_neg same, if_neg (Ne.symm same)]

namespace Registered

variable {state : ArpQueries} {query : QueryId} {ipv4Addr : Ipv4Addr}

/-- A query that does not wait, or has its mapping, is in no list. -/
theorem unlisted (registered : state.Registered) {future : ArpQuery}
    (found : state.queries[query]? = some future)
    (told : (∀ ipv4Addr left expiry, future ≠ .waiting ipv4Addr left expiry) ∨
      state.peer.channels query ≠ .empty) (ipv4Addr : Ipv4Addr) :
    query ∉ state.peer.waitQueue ipv4Addr := by
  intro member
  obtain ⟨empty, left, expiry, waiting⟩ := registered.listed ipv4Addr query member
  obtain another | sent := told
  · rw [found] at waiting
    exact another _ _ _ (Option.some.inj waiting)
  · exact sent empty

/-- A query that is in no list completes. -/
theorem complete (registered : state.Registered) {future : ArpQuery}
    (found : state.queries[query]? = some future)
    (unlisted : ∀ ipv4Addr, query ∉ state.peer.waitQueue ipv4Addr)
    (transmitted : List ArpMessage) (result : Except Fail MacAddress) :
    Registered ⟨{ state.peer with transmitted }, state.queries.set query (.completed result)⟩ where
  waiting other awaited left expiry waiting := by
    rw [getElem?_set_of_found found] at waiting
    split at waiting
    · cases waiting
    · exact registered.waiting other awaited left expiry waiting
  listed awaited other member := by
    have different : other ≠ query := by
      rintro rfl
      exact unlisted awaited member
    rw [getElem?_set_of_found found, if_neg different]
    exact registered.listed awaited other member
  occupied := registered.occupied

/-- A waiting query goes on to another attempt. -/
theorem retry (registered : state.Registered) {left : Nat} {expiry : Instant}
    (found : state.queries[query]? = some (.waiting ipv4Addr left expiry))
    (transmitted : List ArpMessage) (left' : Nat) (expiry' : Instant) :
    Registered ⟨{ state.peer with transmitted },
      state.queries.set query (.waiting ipv4Addr left' expiry')⟩ where
  waiting other awaited left expiry waiting := by
    rw [getElem?_set_of_found found] at waiting
    split at waiting
    · rename_i same
      cases waiting
      subst same
      exact registered.waiting _ _ _ _ found
    · exact registered.waiting other awaited left expiry waiting
  listed awaited other member := by
    obtain ⟨empty, left, expiry, waiting⟩ := registered.listed awaited other member
    refine ⟨empty, ?_⟩
    rw [getElem?_set_of_found found]
    split
    · rename_i same
      subst same
      rw [found] at waiting
      cases waiting
      exact ⟨_, _, rfl⟩
    · exact ⟨_, _, waiting⟩
  occupied := registered.occupied

/-- A query begins to wait. -/
theorem register (registered : state.Registered) {future : ArpQuery}
    (found : state.queries[query]? = some future)
    (unlisted : ∀ ipv4Addr, query ∉ state.peer.waitQueue ipv4Addr)
    (transmitted : List ArpMessage) (left : Nat) (expiry : Instant) :
    Registered ⟨{ state.peer with
        channels := Function.update state.peer.channels query .empty
        waiters := state.peer.waiters.insert ipv4Addr (state.peer.waitQueue ipv4Addr ++ [query])
        transmitted },
      state.queries.set query (.waiting ipv4Addr left expiry)⟩ := by
  refine ⟨fun other awaited left expiry waiting => ?_, fun awaited other member => ?_,
    fun awaited member => ?_⟩
  · dsimp only [ArpPeer.waitQueue] at waiting ⊢
    rw [getElem?_set_of_found found] at waiting
    rw [Table.lookup_insert_eq, Function.update_apply]
    split at waiting
    · rename_i same
      cases waiting
      rw [if_pos same, if_pos rfl]
      exact .inr ⟨rfl, List.mem_append_right _ (List.mem_singleton.mpr same)⟩
    · rename_i different
      rw [if_neg different]
      obtain sent | ⟨empty, member⟩ := registered.waiting other awaited left expiry waiting
      · exact .inl sent
      · refine .inr ⟨empty, ?_⟩
        split
        · rename_i same
          subst same
          exact List.mem_append_left _ member
        · exact member
  · dsimp only [ArpPeer.waitQueue] at member ⊢
    rw [getElem?_set_of_found found, Function.update_apply]
    rw [Table.lookup_insert_eq] at member
    by_cases same : other = query
    · rw [if_pos same, if_pos same]
      split at member
      · rename_i address
        rw [address]
        exact ⟨rfl, _, _, rfl⟩
      · rw [same] at member
        exact absurd member (unlisted awaited)
    · rw [if_neg same, if_neg same]
      split at member
      · rename_i address
        obtain before | last := List.mem_append.mp member
        · rw [address]
          exact registered.listed ipv4Addr other before
        · exact absurd (List.mem_singleton.mp last) same
      · exact registered.listed awaited other member
  · dsimp only [ArpPeer.waitQueue] at member ⊢
    rw [Table.lookup_insert_eq]
    split
    · exact List.append_ne_nil_of_right_ne_nil _ (List.cons_ne_nil _ _)
    · rename_i different
      exact registered.occupied awaited ((AList.mem_insert _).mp member |>.resolve_left different)

/-- The waiters of an address leave its list, with whatever becomes of their channels. -/
theorem release (registered : state.Registered) {peer : ArpPeer} {queries : List ArpQuery}
    {channel : ArpChannel} (waiters : peer.waiters = state.peer.waiters.erase ipv4Addr)
    (channels : peer.channels = fun query =>
      if query ∈ state.peer.waitQueue ipv4Addr then channel else state.peer.channels query)
    (others : ∀ other, other ∉ state.peer.waitQueue ipv4Addr →
      ∀ awaited left expiry, queries[other]? = some (.waiting awaited left expiry) ↔
        state.queries[other]? = some (.waiting awaited left expiry))
    (released : ∀ other ∈ state.peer.waitQueue ipv4Addr,
      (∃ linkAddr, channel = .sent linkAddr) ∨
      ∀ awaited left expiry, queries[other]? ≠ some (.waiting awaited left expiry)) :
    Registered ⟨peer, queries⟩ := by
  have queue : ∀ awaited, peer.waitQueue awaited =
      if awaited = ipv4Addr then [] else state.peer.waitQueue awaited := by
    intro awaited
    unfold ArpPeer.waitQueue
    rw [waiters, Table.lookup_erase_eq]
    split
    · rfl
    · rfl
  refine ⟨fun other awaited left expiry waiting => ?_, fun awaited other member => ?_,
    fun awaited member => ?_⟩
  · dsimp only at waiting ⊢
    rw [congrFun channels other, queue]
    by_cases listed : other ∈ state.peer.waitQueue ipv4Addr
    · obtain ⟨linkAddr, sent⟩ | ended := released other listed
      · exact .inl ⟨linkAddr, (if_pos listed).trans sent⟩
      · exact absurd waiting (ended _ _ _)
    · rw [if_neg listed]
      have waited := (others other listed _ _ _).mp waiting
      obtain sent | ⟨empty, member⟩ := registered.waiting other awaited left expiry waited
      · exact .inl sent
      · have different : awaited ≠ ipv4Addr := by
          rintro rfl
          exact listed member
        rw [if_neg different]
        exact .inr ⟨empty, member⟩
  · dsimp only at member ⊢
    rw [queue] at member
    split at member
    · cases member
    · rename_i different
      obtain ⟨empty, left, expiry, waiting⟩ := registered.listed awaited other member
      have unlisted : other ∉ state.peer.waitQueue ipv4Addr := by
        intro listed
        obtain ⟨-, left, expiry, waiting'⟩ := registered.listed ipv4Addr other listed
        rw [waiting] at waiting'
        cases waiting'
        exact different rfl
      rw [channels]
      exact ⟨(if_neg unlisted).trans empty, left, expiry,
        (others other unlisted _ _ _).mpr waiting⟩
  · dsimp only at member ⊢
    rw [waiters, AList.mem_erase] at member
    rw [queue, if_neg member.1]
    exact registered.occupied awaited member.2

end Registered

/-- The state stands for the given queries on their own. -/
def Faithful (state : ArpQueries) (expected : List ArpLookup) : Prop :=
  state.Registered ∧ state.lookups = expected

/-- A waiting query has lost its sender, or one has completed with another result. -/
def Harmed (state : ArpQueries) (expected : List ArpLookup) : Prop :=
  (∃ query ipv4Addr left expiry, state.queries[query]? = some (.waiting ipv4Addr left expiry) ∧
    state.peer.channels query = .closed) ∨
  state.queries.map ArpQuery.result ≠ expected.map ArpLookup.result

section Attempts

variable {state : ArpQueries} {query : QueryId} {ipv4Addr : Ipv4Addr} {left : Nat}
  {expiry : Instant} {timerFirst : Nat → Bool}

/-- A change of one lookup is a write of what it becomes. -/
theorem lookups_modify {future : ArpQuery} (found : state.queries[query]? = some future)
    (change : ArpLookup → ArpLookup) :
    state.lookups.modify query change =
      state.lookups.set query (change (future.lookup (state.peer.channels query))) := by
  have inside : query < state.lookups.length := by
    rw [lookups, List.length_mapIdx]
    exact (List.getElem?_eq_some_iff.mp found).1
  have entry : state.lookups[query]? = some (future.lookup (state.peer.channels query)) := by
    rw [getElem?_lookups, found]
    rfl
  refine List.ext_getElem? fun other => ?_
  rw [List.getElem?_modify, List.getElem?_set]
  by_cases same : query = other
  · subst same
    rw [entry, if_pos rfl, if_pos inside]
    simp
  · simp [same]

/-- A query that is the only one in its list gives up. -/
theorem Registered.giveUp (registered : state.Registered)
    (found : state.queries[query]? = some (.waiting ipv4Addr left expiry))
    (member : query ∈ state.peer.waitQueue ipv4Addr) (alone : state.Alone query ipv4Addr)
    (transmitted : List ArpMessage) (result : Except Fail MacAddress) :
    Faithful ⟨{ state.peer with transmitted }.doDrop ipv4Addr,
      state.queries.set query (.completed result)⟩ (state.lookups.set query (.completed result)) := by
  have channels : ({ state.peer with transmitted }.doDrop ipv4Addr).channels = fun query =>
      if query ∈ state.peer.waitQueue ipv4Addr then .closed else state.peer.channels query := by
    rw [ArpPeer.doDrop_eq]
    rfl
  refine ⟨registered.release (by rw [ArpPeer.doDrop_eq]) channels ?_ ?_, lookups_set ?_⟩
  · intro other unlisted awaited left expiry
    have different : other ≠ query := fun same => unlisted (same ▸ member)
    rw [getElem?_set_of_found found, if_neg different]
  · intro other listed
    refine .inr fun awaited left expiry waiting => ?_
    rw [getElem?_set_of_found found, if_pos (alone other listed)] at waiting
    cases waiting
  · intro other future different _
    rw [channels]
    exact congrArg (ArpQuery.lookup · future)
      (if_neg fun listed => different (alone other listed))

/-- The attempts of a query with an empty channel. -/
theorem attempt_outcome_empty (registered : state.Registered)
    (found : state.queries[query]? = some (.waiting ipv4Addr left expiry))
    (empty : state.peer.channels query = .empty) :
    ∃ peer future, state.peer.attempt query ipv4Addr timerFirst left expiry = .ok (peer, future) ∧
      peer.arpConfig = state.peer.arpConfig ∧
      (state.Spares query timerFirst ipv4Addr left expiry .empty →
        Faithful ⟨peer, state.queries.set query future⟩ (state.lookups.set query
          (.wait state.peer.arpConfig state.peer.clock ipv4Addr left expiry))) ∧
      (¬ state.Spares query timerFirst ipv4Addr left expiry .empty →
        Harmed ⟨peer, state.queries.set query future⟩ (state.lookups.set query
          (.wait state.peer.arpConfig state.peer.clock ipv4Addr left expiry))) := by
  have member : query ∈ state.peer.waitQueue ipv4Addr := by
    obtain ⟨linkAddr, sent⟩ | ⟨-, member⟩ := registered.waiting _ _ _ _ found
    · rw [empty] at sent
      cases sent
    · exact member
  obtain ⟨exhausted, transmitted, attempted⟩ | ⟨patient, transmitted, left', expiry', attempted,
    waits⟩ := @ArpPeer.attempts_empty query ipv4Addr timerFirst _ empty left expiry
  · obtain ⟨-, ended⟩ | ⟨patient, -⟩ := @ArpLookup.wait_cases state.peer.arpConfig state.peer.clock
      ipv4Addr left expiry
    · refine ⟨_, _, attempted, by rw [ArpPeer.doDrop_eq], fun spares => ?_, fun harms => .inl ?_⟩
      · rw [ended]
        exact registered.giveUp found member (spares exhausted) transmitted _
      · obtain ⟨other, listed, different⟩ :
            ∃ other ∈ state.peer.waitQueue ipv4Addr, other ≠ query := by
          by_contra none
          exact harms fun _ other listed =>
            by_contra fun different => none ⟨other, listed, different⟩
        obtain ⟨-, left', expiry', waiting⟩ := registered.listed ipv4Addr other listed
        refine ⟨other, ipv4Addr, left', expiry', ?_, ?_⟩
        · rw [getElem?_set_of_found found, if_neg different]
          exact waiting
        · rw [ArpPeer.doDrop_eq]
          exact if_pos listed
    · exact absurd exhausted patient
  · refine ⟨_, _, attempted, rfl, fun _ => ⟨registered.retry found transmitted left' expiry', ?_⟩,
      fun harms => absurd (fun exhausted => absurd exhausted patient) harms⟩
    refine (lookups_set fun _ _ _ _ => rfl).trans ?_
    rw [waits, ArpQuery.lookup, empty]
    rfl

/-- The attempts of a query that has its mapping. -/
theorem attempt_outcome_sent {linkAddr : MacAddress} (registered : state.Registered)
    (found : state.queries[query]? = some (.waiting ipv4Addr left expiry))
    (sent : state.peer.channels query = .sent linkAddr) :
    ∃ peer future, state.peer.attempt query ipv4Addr timerFirst left expiry = .ok (peer, future) ∧
      peer.arpConfig = state.peer.arpConfig ∧
      (state.Spares query timerFirst ipv4Addr left expiry (.sent linkAddr) →
        Faithful ⟨peer, state.queries.set query future⟩
          (state.lookups.set query (.completed (.ok linkAddr)))) ∧
      (¬ state.Spares query timerFirst ipv4Addr left expiry (.sent linkAddr) →
        Harmed ⟨peer, state.queries.set query future⟩
          (state.lookups.set query (.completed (.ok linkAddr)))) := by
  obtain ⟨exhausted, all, transmitted, attempted⟩ | ⟨some, transmitted, attempted⟩ :=
    @ArpPeer.attempts_sent query ipv4Addr timerFirst _ _ sent left expiry
  · refine ⟨_, _, attempted, by rw [ArpPeer.doDrop_eq], fun spares => ?_, fun _ => .inr ?_⟩
    · obtain ⟨turn, within, channelFirst⟩ := spares exhausted
      rw [all turn within] at channelFirst
      cases channelFirst
    · intro same
      have inside := (List.getElem?_eq_some_iff.mp found).1
      have results := congrArg (·[query]?) same
      simp [inside, lookups, ArpQuery.result, ArpLookup.result, ArpPeer.TIMED_OUT] at results
  · have unlisted := registered.unlisted found (.inr (by rw [sent]; exact nofun))
    refine ⟨_, _, attempted, rfl, fun _ =>
      ⟨registered.complete found unlisted transmitted _, lookups_set fun _ _ _ _ => rfl⟩,
      fun harms => absurd some harms⟩

/-- The state in which a query that is not in the cache begins its attempts. -/
def begun (state : ArpQueries) (query : QueryId) (ipv4Addr : Ipv4Addr) : ArpQueries where
  peer := { state.peer with
    channels := Function.update state.peer.channels query .empty
    waiters := state.peer.waiters.insert ipv4Addr (state.peer.waitQueue ipv4Addr ++ [query])
    transmitted := state.peer.request ipv4Addr :: state.peer.transmitted }
  queries := state.queries.set query (.waiting ipv4Addr state.peer.arpConfig.retryCount
    (state.peer.clock + state.peer.arpConfig.requestTimeout))

/-- A query that is not in the cache goes on from there. -/
theorem pollQuery_created (uncached : state.peer.cache.get ipv4Addr = none)
    (fits : state.peer.arpConfig.retryCount + 1 < 2 ^ 64) (profile : Profile) :
    state.peer.pollQuery profile query timerFirst (.created ipv4Addr) =
      (state.begun query ipv4Addr).peer.attempt query ipv4Addr timerFirst
        state.peer.arpConfig.retryCount (state.peer.clock + state.peer.arpConfig.requestTimeout) := by
  have count : addUsize profile state.peer.arpConfig.retryCount 1 =
      .ok (state.peer.arpConfig.retryCount + 1) := if_pos fits
  simp only [ArpPeer.pollQuery, ArpPeer.doWaitLinkAddr, uncached, count]
  rfl

/-- The query stands for one that has begun to wait on its own. -/
theorem lookups_begun : (state.begun query ipv4Addr).lookups = state.lookups.set query
    (.pending ipv4Addr none state.peer.arpConfig.retryCount
      (state.peer.clock + state.peer.arpConfig.requestTimeout)) := by
  refine (lookups_set fun other future different _ => ?_).trans ?_
  · exact congrArg (ArpQuery.lookup · future) (Function.update_of_ne different _ _)
  · have empty : Function.update state.peer.channels query .empty query = .empty :=
      Function.update_self _ _ _
    exact congrArg (fun channel => state.lookups.set query
      (.pending ipv4Addr (ArpChannel.mapping channel) _ _)) empty

/-- It harms the others exactly when it would have done so before. -/
theorem spares_begun {channel : ArpChannel} :
    (state.begun query ipv4Addr).Spares query timerFirst ipv4Addr left expiry channel ↔
      state.Spares query timerFirst ipv4Addr left expiry channel := by
  have queue : (state.begun query ipv4Addr).peer.waitQueue ipv4Addr =
      state.peer.waitQueue ipv4Addr ++ [query] := by
    unfold begun ArpPeer.waitQueue
    rw [AList.lookup_insert]
    rfl
  have alone : (state.begun query ipv4Addr).Alone query ipv4Addr ↔ state.Alone query ipv4Addr := by
    unfold Alone
    rw [queue]
    simp [or_imp]
  unfold Spares
  rw [alone]
  rfl

/-- What a poll does: it always returns, and harms no query exactly under the condition. -/
theorem poll_outcome (registered : state.Registered)
    (fits : state.peer.arpConfig.retryCount + 1 < 2 ^ 64) (profile : Profile) (query : QueryId)
    (timerFirst : Nat → Bool) :
    ∃ target, step profile state (.poll query timerFirst) = .ok target ∧
      target.peer.arpConfig = state.peer.arpConfig ∧
      (state.SparesOthers (.poll query timerFirst) → Faithful target
        (state.lookups.modify query
          (.poll state.peer.arpConfig state.peer.clock state.peer.cache.get))) ∧
      (¬ state.SparesOthers (.poll query timerFirst) → Harmed target
        (state.lookups.modify query
          (.poll state.peer.arpConfig state.peer.clock state.peer.cache.get))) := by
  unfold SparesOthers
  dsimp only
  cases found : state.queries[query]? with
  | none =>
    have beyond : state.lookups.length ≤ query := by
      rw [lookups, List.length_mapIdx]
      exact List.getElem?_eq_none_iff.mp found
    refine ⟨state, ?_, rfl, fun _ => ⟨registered, ?_⟩, fun harms => absurd trivial harms⟩
    · simp only [step, found]
    · exact (List.modify_eq_self beyond).symm
  | some future =>
    rw [lookups_modify found]
    cases future with
    | created ipv4Addr =>
      dsimp only [PollSpares]
      cases cached : state.peer.cache.get ipv4Addr with
      | some linkAddr =>
        have unlisted := registered.unlisted found (.inl fun _ _ _ same => by cases same)
        refine ⟨⟨state.peer, state.queries.set query (.completed (.ok linkAddr))⟩, ?_, rfl,
          fun _ => ⟨registered.complete found unlisted _ _, ?_⟩, fun harms => absurd nofun harms⟩
        · simp only [step, found, ArpPeer.pollQuery, cached]
          rfl
        · refine (lookups_set fun _ _ _ _ => rfl).trans ?_
          rw [ArpQuery.lookup, ArpQuery.lookup, ArpLookup.poll, cached]
      | none =>
        have unlisted := registered.unlisted found (.inl fun _ _ _ same => by cases same)
        have waits : (state.begun query ipv4Addr).Registered :=
          registered.register found unlisted _ _ _
        have present := (getElem?_set_of_found found (.waiting ipv4Addr
          state.peer.arpConfig.retryCount (state.peer.clock + state.peer.arpConfig.requestTimeout))
          query).trans (if_pos rfl)
        obtain ⟨peer, future, attempted, config, faithful, harmed⟩ :=
          @attempt_outcome_empty _ _ _ _ _ timerFirst waits present (Function.update_self _ _ _)
        rw [lookups_begun, List.set_set, spares_begun] at faithful harmed
        have same : (state.begun query ipv4Addr).queries.set query future =
            state.queries.set query future := List.set_set _
        rw [same] at faithful harmed
        have polled : ArpLookup.poll state.peer.arpConfig state.peer.clock state.peer.cache.get
            (.created ipv4Addr) = .wait state.peer.arpConfig state.peer.clock ipv4Addr
              state.peer.arpConfig.retryCount
              (state.peer.clock + state.peer.arpConfig.requestTimeout) := by
          rw [ArpLookup.poll, cached]
        rw [ArpQuery.lookup, polled]
        refine ⟨⟨peer, state.queries.set query future⟩, ?_, config, fun spares => ?_,
          fun harms => ?_⟩
        · simp only [step, found, pollQuery_created cached fits, attempted]
          rfl
        · exact faithful (spares rfl)
        · exact harmed fun spares => harms fun _ => spares
    | waiting ipv4Addr left expiry =>
      dsimp only [PollSpares]
      cases channel : state.peer.channels query with
      | empty =>
        obtain ⟨peer, future, attempted, config, faithful, harmed⟩ :=
          @attempt_outcome_empty _ _ _ _ _ timerFirst registered found channel
        refine ⟨⟨peer, state.queries.set query future⟩, ?_, config, faithful, harmed⟩
        simp only [step, found, ArpPeer.pollQuery, attempted]
        rfl
      | sent linkAddr =>
        obtain ⟨peer, future, attempted, config, faithful, harmed⟩ :=
          @attempt_outcome_sent _ _ _ _ _ timerFirst _ registered found channel
        refine ⟨⟨peer, state.queries.set query future⟩, ?_, config, faithful, harmed⟩
        simp only [step, found, ArpPeer.pollQuery, attempted]
        rfl
      | closed =>
        obtain ⟨linkAddr, sent⟩ | ⟨empty, -⟩ := registered.waiting _ _ _ _ found
        · rw [channel] at sent
          cases sent
        · rw [channel] at empty
          cases empty
    | completed result =>
      refine ⟨state, ?_, rfl, fun _ => ⟨registered, ?_⟩, fun harms => absurd trivial harms⟩
      · simp only [step, found, ArpPeer.pollQuery, pure_bind, set_found found]
        rfl
      · refine (set_found ?_).symm
        rw [getElem?_lookups, found]
        rfl

end Attempts

/-! ## What the other actions do -/

section Actions

variable {state : ArpQueries}

/-- A new query stands for a new query on its own. -/
theorem Registered.create (registered : state.Registered) (ipv4Addr : Ipv4Addr) :
    Faithful { state with queries := state.queries ++ [.created ipv4Addr] }
      (state.lookups ++ [.created ipv4Addr]) := by
  refine ⟨⟨fun query awaited left expiry waiting => ?_, fun awaited query member => ?_,
    registered.occupied⟩, List.mapIdx_concat⟩
  · refine registered.waiting query awaited left expiry ?_
    obtain ⟨inside, value⟩ := List.getElem?_eq_some_iff.mp waiting
    rw [List.getElem_append] at value
    split at value
    · rename_i before
      exact List.getElem?_eq_some_iff.mpr ⟨before, value⟩
    · rw [List.getElem_singleton] at value
      cases value
  · obtain ⟨empty, left, expiry, waiting⟩ := registered.listed awaited query member
    exact ⟨empty, left, expiry,
      List.getElem?_append_left (List.getElem?_eq_some_iff.mp waiting).1 ▸ waiting⟩

/-- An inserted mapping tells it to all queries that wait for its address. -/
theorem Registered.map (registered : state.Registered) {peer : ArpPeer} {ipv4Addr : Ipv4Addr}
    {linkAddr : MacAddress} (maps : state.peer.Maps ipv4Addr linkAddr peer) :
    Faithful { state with peer } (state.lookups.map (.mapped ipv4Addr linkAddr)) := by
  refine ⟨registered.release maps.waiters maps.channels (fun _ _ _ _ _ => Iff.rfl)
    fun _ _ => .inl ⟨linkAddr, rfl⟩, List.ext_getElem? fun query => ?_⟩
  rw [List.getElem?_map, getElem?_lookups, getElem?_lookups]
  dsimp only
  cases found : state.queries[query]? with
  | none => rfl
  | some future =>
    rw [congrFun maps.channels query]
    cases future with
    | created => rfl
    | completed => rfl
    | waiting awaited left expiry =>
      obtain ⟨told, sent⟩ | ⟨empty, member⟩ := registered.waiting _ _ _ _ found
      · have unlisted := registered.unlisted found (.inr (by rw [sent]; exact nofun)) ipv4Addr
        rw [if_neg unlisted, sent]
        rfl
      · by_cases same : awaited = ipv4Addr
        · subst same
          rw [if_pos member, empty]
          simp [ArpQuery.lookup, ArpLookup.mapped, ArpChannel.mapping]
        · have unlisted : query ∉ state.peer.waitQueue ipv4Addr := by
            intro listed
            obtain ⟨-, left, expiry, waiting⟩ := registered.listed ipv4Addr query listed
            rw [found] at waiting
            cases waiting
            exact same rfl
          rw [if_neg unlisted, empty]
          simp [ArpQuery.lookup, ArpLookup.mapped, ArpChannel.mapping, same]

/-- Every action but a poll leaves the queries as they would be on their own. -/
theorem action_outcome (registered : state.Registered) {profile : Profile} {action : ArpAction}
    {target : ArpQueries} (other : ∀ query timerFirst, action ≠ .poll query timerFirst)
    (advanced : step profile state action = .ok target) :
    target.peer.arpConfig = state.peer.arpConfig ∧
      Faithful target ((state.event action).apply state.peer.arpConfig state.lookups) := by
  cases action with
  | query ipv4Addr =>
    cases advanced
    exact ⟨rfl, registered.create ipv4Addr⟩
  | poll query timerFirst => exact absurd rfl (other query timerFirst)
  | receive buf =>
    simp only [step, bind, Except.bind] at advanced
    split at advanced
    · cases advanced
    · rename_i received
      cases advanced
      cases learned : state.peer.learned buf with
      | none =>
        have same := ArpPeer.receive_nothing learned received
        rw [event, learned]
        dsimp only
        rw [same]
        exact ⟨rfl, registered, rfl⟩
      | some mapping =>
        have maps := ArpPeer.receive_learned learned received
        rw [event, learned]
        exact ⟨maps.arpConfig, registered.map maps⟩
  | insert ipv4Addr linkAddr =>
    simp only [step, bind, Except.bind] at advanced
    split at advanced
    · cases advanced
    · rename_i inserted
      cases advanced
      have maps := ArpPeer.doInsert_ok inserted
      exact ⟨maps.arpConfig, registered.map maps⟩
  | advance now =>
    simp only [step] at advanced
    split at advanced
    · cases advanced
      exact ⟨rfl, ⟨registered.waiting, registered.listed, registered.occupied⟩, rfl⟩
    · cases advanced
  | background =>
    simp only [step, bind, Except.bind] at advanced
    split at advanced
    · cases advanced
    · cases advanced
      exact ⟨rfl, ⟨registered.waiting, registered.listed, registered.occupied⟩, rfl⟩

end Actions

/-! ## Whole runs -/

/-- The invariant: the state stands for the queries on their own that the past leads to. -/
structure Holds (past : List Transition) (state : ArpQueries) : Prop where
  registered : state.Registered
  expected : state.lookups = expected past
  fits : state.peer.arpConfig.retryCount + 1 < 2 ^ 64

variable {profile : Profile} {past : List Transition} {source target : ArpQueries}
  {action : ArpAction}

/-- Queries that have all kept apart are independent. -/
theorem Holds.independent (holds : Holds past source) : Independent profile past source where
  results := by rw [← holds.expected, map_result_lookups]
  survives query timerFirst := by
    obtain ⟨target, polled, -⟩ := poll_outcome holds.registered holds.fits profile query timerFirst
    exact ⟨target, polled⟩
  awaited ipv4Addr member := by
    obtain ⟨query, listed⟩ := List.exists_mem_of_ne_nil _ (holds.registered.occupied ipv4Addr member)
    obtain ⟨-, left, expiry, waiting⟩ := holds.registered.listed ipv4Addr query listed
    exact ⟨query, left, expiry, waiting⟩

/-- A step that harms no query keeps the invariant. -/
theorem Holds.keep (holds : Holds past source)
    (advanced : step profile source action = .ok target)
    (spares : source.SparesOthers action) :
    Holds (⟨source, action, target⟩ :: past) target := by
  have outcome : target.peer.arpConfig = source.peer.arpConfig ∧
      Faithful target ((source.event action).apply source.peer.arpConfig source.lookups) := by
    by_cases polls : ∃ query timerFirst, action = .poll query timerFirst
    · obtain ⟨query, timerFirst, rfl⟩ := polls
      obtain ⟨target', polled, config, faithful, -⟩ :=
        poll_outcome holds.registered holds.fits profile query timerFirst
      rw [advanced] at polled
      cases polled
      exact ⟨config, faithful spares⟩
    · exact action_outcome holds.registered (fun query timerFirst same =>
        polls ⟨query, timerFirst, same⟩) advanced
  obtain ⟨config, registered, lookups⟩ := outcome
  refine ⟨registered, ?_, by rw [config]; exact holds.fits⟩
  rw [lookups, holds.expected]
  rfl

/-- Harm is seen in the results or in a query that can panic. -/
theorem Harmed.not_independent {expected : List ArpLookup} (harmed : Harmed target expected)
    (same : ArpQueries.expected past = expected) : ¬ Independent profile past target := by
  intro independent
  obtain ⟨query, ipv4Addr, left, expiry, waiting, closed⟩ | different := harmed
  · obtain ⟨after, polled⟩ := independent.survives query fun _ => false
    simp only [ArpQueries.step, waiting, ArpPeer.pollQuery,
      ArpPeer.attempt_closed closed fun _ => rfl] at polled
    cases polled
  · rw [← same] at different
    exact different independent.results

/-- A step that harms a query is one after which it is seen. -/
theorem Holds.harm (holds : Holds past source)
    (advanced : step profile source action = .ok target)
    (harms : ¬ source.SparesOthers action) :
    ¬ Independent profile (⟨source, action, target⟩ :: past) target := by
  cases action with
  | poll query timerFirst =>
    obtain ⟨target', polled, -, -, harmed⟩ :=
      poll_outcome holds.registered holds.fits profile query timerFirst
    rw [advanced] at polled
    cases polled
    exact (harmed harms).not_independent
      (congrArg (fun lookups : List ArpLookup => lookups.modify query _) holds.expected.symm)
  | query => exact absurd trivial harms
  | receive => exact absurd trivial harms
  | insert => exact absurd trivial harms
  | advance => exact absurd trivial harms
  | background => exact absurd trivial harms

/-- The queries of a peer are independent in exactly the runs in which no poll harms a query:
none gives up while another one waits for the same address, and none whose mapping has come
lets the timer of its last attempt decide.

Proof: the rule for runs that keep a property exactly under a condition, with the
invariant `Holds`. It says that the state stands for the queries on their own; a poll
that harms none keeps it, and harm is seen in the results or in a waiting query whose
next poll panics. -/
theorem independent_iff {now : Instant} {localLinkAddr : MacAddress} {localIpv4Addr : Ipv4Addr}
    {arpConfig : ArpConfig} {cacheTtl : Duration} {initialValues : List (Ipv4Addr × MacAddress)}
    {disableArp : Bool} {peer : ArpPeer} {state : ArpQueries}
    (created : ArpPeer.new now localLinkAddr localIpv4Addr arpConfig cacheTtl initialValues
      disableArp = .ok peer)
    (fits : arpConfig.retryCount + 1 < 2 ^ 64) (run : Run profile peer past state) :
    Always (Independent profile) (start peer) past ↔ Meets SparesOthers past := by
  refine @always_iff _ _ _ _ _ _ _ Holds ?_ (fun _ _ holds => holds.independent)
    (fun _ _ _ _ holds advanced spares => holds.keep advanced spares)
    (fun _ _ _ _ holds advanced harms => holds.harm advanced harms) _ _ run
  simp only [ArpPeer.new, bind, Except.bind] at created
  split at created
  · cases created
  · cases created
    refine ⟨⟨fun _ _ _ _ waiting => ?_, fun _ _ member => ?_, fun _ member => ?_⟩, rfl, fits⟩
    · cases waiting
    · cases member
    · exact absurd member (AList.notMem_empty _)

/-- A peer with an empty cache, a timeout of one second and two retries. -/
def samplePeer : ArpPeer where
  localLinkAddr := 1
  localIpv4Addr := 0x0a000109
  arpConfig := ⟨1000000000, 2⟩
  clock := 0
  cache := ⟨∅, some 600000000000, 0, false⟩
  waiters := ∅
  channels := fun _ => .closed
  transmitted := []

/-- Two queries for one address, the second half a second after the first: a mapping comes
before either has given up, and both complete with it. -/
theorem independent_answered :
    ∃ past state, Run .dev samplePeer past state ∧
      state.queries = [.completed (.ok 7), .completed (.ok 7)] ∧
      Always (Independent .dev) (start samplePeer) past := by
  have run : Run .dev samplePeer _ _ := @run_of_execute _ _ _ (step .dev) (start samplePeer)
    [.query 0x0a000108, .poll 0 fun _ => false, .advance 500000000, .query 0x0a000108,
      .poll 1 fun _ => false, .advance 1000000000, .poll 0 fun _ => true, .insert 0x0a000108 7,
      .poll 0 fun _ => true, .poll 1 fun _ => false] _ _ _ _ .nil rfl
  have created : ArpPeer.new 0 1 0x0a000109 ⟨1000000000, 2⟩ 600000000000 [] false =
    .ok samplePeer := rfl
  exact ⟨_, _, run, rfl, (independent_iff created (by decide) run).mpr (by decide)⟩

/-- The second query, half a second old, loses its sender when the first one gives up: although
its mapping comes half a second before the end of its first attempt, its next poll panics. -/
theorem waiter_dropped :
    ∃ past state, ArpPeer.new 0 1 0x0a000109 ⟨1000000000, 2⟩ 600000000000 [] false =
        .ok samplePeer ∧
      Run .dev samplePeer past state ∧
      (expected past)[1]? = some (.pending 0x0a000108 (some 7) 2 3500000000) ∧
      step .dev state (.poll 1 fun _ => false) = .error .droppedWaiter ∧
      ¬ Always (Independent .dev) (start samplePeer) past := by
  have run : Run .dev samplePeer _ _ := @run_of_execute _ _ _ (step .dev) (start samplePeer)
    [.query 0x0a000108, .poll 0 fun _ => false, .advance 1000000000, .poll 0 fun _ => false,
      .advance 2000000000, .poll 0 fun _ => false, .advance 2500000000, .query 0x0a000108,
      .poll 1 fun _ => false, .advance 3000000000, .poll 0 fun _ => false,
      .insert 0x0a000108 7] _ _ _ _ .nil rfl
  refine ⟨_, _, rfl, run, by decide, rfl, ?_⟩
  rintro ⟨independent, -⟩
  obtain ⟨target, polled⟩ := independent.survives 1 fun _ => false
  cases polled

end ArpQueries

end Capybara
