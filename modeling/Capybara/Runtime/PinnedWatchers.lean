import Capybara.Collections.ListRefinement
import Capybara.Runtime.Watched

/-!
# Watched values over the intrusive list

`runtime/watched.rs` with its pointers. The node of a future is pinned in it, and the list of the
waiters leads from node to node through the futures themselves. A future keeps to what the list
asks for by its own state alone: it is put in front when it becomes registered, and taken out
when it is dropped registered. Neither the list nor the futures that are left ever notice the
pointers, so this is the watched value whose list is a list.
-/

namespace Capybara

open Slots Runs LinkedNodes

namespace Watched

/-- `WatchedValue`, with the nodes of the futures that `watch` has made and the wakers called. -/
structure PinnedWatchedValue (α : Type) where
  value : α
  waiters : LinkedList
  nodes : NodeMemory WatchEntry
  woken : List Waker

namespace PinnedWatchedValue

variable {α : Type}

/-- `new`. -/
def new (value : α) : PinnedWatchedValue α := ⟨value, .new, [], []⟩

/-- The callback of `modify`. -/
def complete (woken : List Waker) (waiter : WatchEntry) : List Waker × WatchEntry :=
  (woken ++ waiter.task.toList, ⟨none, .completed false⟩)

/-- `modify`. -/
def modify (watched : PinnedWatchedValue α) (f : α → α) :
    Except ListFault (PinnedWatchedValue α) := do
  let (woken, waiters, nodes) ← watched.waiters.reverseDrain complete watched.woken watched.nodes
  return ⟨f watched.value, waiters, nodes, woken⟩

/-- `watch`: the value and a future. -/
def watch (watched : PinnedWatchedValue α) : (α × FutureId) × PinnedWatchedValue α :=
  ((watched.value, watched.nodes.length),
    { watched with nodes := watched.nodes ++ [some (.new ⟨none, .unregistered⟩)] })

/-- `WatchFuture::poll`; the result is whether the future is ready. -/
def poll (watched : PinnedWatchedValue α) (id : FutureId) (waker : Waker) (waitNode : WatchEntry) :
    Except ListFault (PinnedWatchedValue α × Bool) :=
  match waitNode.state with
  | .unregistered => do
    let nodes ← watched.nodes.write id fun node =>
      { node with data := ⟨some waker, .registered⟩ }
    let (waiters, nodes) ← watched.waiters.addFront id nodes
    return ({ watched with waiters, nodes }, false)
  | .registered => do
    let task := if waitNode.task = some waker then waitNode.task else some waker
    let nodes ← watched.nodes.write id fun node => { node with data := ⟨task, .registered⟩ }
    return ({ watched with nodes }, false)
  | .completed _ => do
    let nodes ← watched.nodes.write id fun node =>
      { node with data := ⟨waitNode.task, .completed true⟩ }
    return ({ watched with nodes }, true)

/-- The memory of a future is gone. -/
def free (watched : PinnedWatchedValue α) (id : FutureId) : PinnedWatchedValue α :=
  { watched with nodes := watched.nodes.set id none }

/-- `WatchFuture::drop`. -/
def dropFuture (profile : Profile) (watched : PinnedWatchedValue α) (id : FutureId)
    (waitNode : WatchEntry) : Except ListFault (PinnedWatchedValue α) :=
  match waitNode.state with
  | .registered => do
    let (removed, waiters, nodes) ← watched.waiters.remove profile id watched.nodes
    if removed then return free { watched with waiters, nodes } id
    else .error .notInWaitQueue
  | _ => .ok (watched.free id)

/-- One action. -/
def serve (profile : Profile) (watched : PinnedWatchedValue α) :
    Action α → Except ListFault (PinnedWatchedValue α × Answer α)
  | .watch => .ok (watched.watch.2, .watching watched.watch.1.1 watched.watch.1.2)
  | .modify f => do
    let watched ← watched.modify f
    return (watched, .done)
  | .set newValue => do
    let watched ← watched.modify fun _ => newValue
    return (watched, .done)
  | .setWithoutNotify newValue => .ok ({ watched with value := newValue }, .done)
  | .poll id waker =>
    match read watched.nodes id with
    | none => .ok (watched, .absent)
    | some node => do
      let (watched, ready) ← watched.poll id waker node.data
      return (watched, .polled ready)
  | .drop id =>
    match read watched.nodes id with
    | none => .ok (watched, .absent)
    | some node => do
      let watched ← watched.dropFuture profile id node.data
      return (watched, .done)

/-- The futures of the nodes. -/
def asFutures (values : Store WatchEntry) : Store WatchFuture :=
  values.map (Option.map WatchFuture.completable)

/-- The value and its waiters, seen without the pointers. -/
structure Stands (pinned : PinnedWatchedValue α) (watched : WatchedValue α) : Prop where
  value : pinned.value = watched.value
  woken : pinned.woken = watched.woken
  futures : watched.futures = asFutures pinned.nodes.values
  represents :
    Represents pinned.nodes.links pinned.waiters.head pinned.waiters.tail watched.waiters
  /-- The nodes of the list are those of the futures that are registered. -/
  registered : ∀ id, id ∈ watched.waiters ↔
    ∃ task, read pinned.nodes.values id = some ⟨task, .registered⟩

variable {pinned : PinnedWatchedValue α} {watched : WatchedValue α} {id : FutureId}

/-- Nothing is said about the links of a node when its data is written. -/
theorem write_data {nodes : NodeMemory WatchEntry} {found : ListNode WatchEntry}
    (held : read nodes id = some found) (data : WatchEntry) :
    ∃ nodes', nodes.write id (fun node => { node with data := data }) = .ok nodes' ∧
      nodes'.values = nodes.values.set id (some data) ∧
      ∀ other, nodes'.links other = nodes.links other := by
  refine ⟨nodes.set id (some { found with data := data }), ?_, NodeMemory.values_set .., ?_⟩
  · rw [NodeMemory.write, held]
  · intro other
    unfold NodeMemory.links
    rw [read_set (inside_of_read held)]
    split
    · rename_i same
      rw [same, held]
      rfl
    · rfl

/-- The future of a slot is that of its node. -/
theorem read_asFutures (values : Store WatchEntry) (id : FutureId) :
    read (asFutures values) id = (read values id).map .completable := read_map ..

/-- Writing a node writes the future of its slot. -/
theorem asFutures_set (values : Store WatchEntry) (id : FutureId) (entry : Option WatchEntry) :
    asFutures (values.set id entry) = (asFutures values).set id (entry.map .completable) :=
  List.map_set ..

/-- The callback is called for the futures that wait, one after the other. -/
theorem complete_visits {ids : List FutureId} {values : Store WatchEntry}
    (live : ∀ id ∈ ids, (read values id).isSome) (value : α) (woken : List Waker) :
    ids.foldlM WatchedValue.complete (⟨value, [], asFutures values, woken⟩ : WatchedValue α) =
      .ok ⟨value, [], asFutures (Sequence.visitAll complete ids (woken, values)).2,
        (Sequence.visitAll complete ids (woken, values)).1⟩ ∧
      ∀ id, read (Sequence.visitAll complete ids (woken, values)).2 id =
        if id ∈ ids then some ⟨none, .completed false⟩ else read values id := by
  induction ids generalizing values woken with
  | nil => exact ⟨rfl, fun id => (if_neg List.not_mem_nil).symm⟩
  | cons first rest inductionHypothesis =>
    obtain ⟨entry, held⟩ := Option.isSome_iff_exists.mp (live first List.mem_cons_self)
    have reads (id : FutureId) : read (values.set first (some ⟨none, .completed false⟩)) id =
        if id = first then some ⟨none, .completed false⟩ else read values id :=
      read_set (inside_of_read held) _ id
    have visited : Sequence.visit complete (woken, values) first =
        (woken ++ entry.task.toList, values.set first (some ⟨none, .completed false⟩)) := by
      rw [Sequence.visit, held]
      rfl
    have completed : WatchedValue.complete ⟨value, [], asFutures values, woken⟩ first =
        .ok (⟨value, [], asFutures (values.set first (some ⟨none, .completed false⟩)),
          woken ++ entry.task.toList⟩ : WatchedValue α) := by
      rw [WatchedValue.complete, read_asFutures, held, asFutures_set]
      rfl
    have live' : ∀ id ∈ rest,
        (read (values.set first (some ⟨none, .completed false⟩)) id).isSome := by
      intro id member
      rw [reads]
      split
      · rfl
      · exact live id (List.mem_cons_of_mem _ member)
    obtain ⟨later, reads'⟩ := inductionHypothesis live' (woken ++ entry.task.toList)
    rw [Sequence.visitAll, List.foldl_cons, visited, List.foldlM_cons, completed]
    refine ⟨later, fun id => (reads' id).trans ?_⟩
    rw [reads]
    by_cases same : id = first
    · rw [if_pos same, ite_self, if_pos (List.mem_cons.mpr (.inl same))]
    · rw [if_neg same]
      exact if_congr (by rw [List.mem_cons, or_iff_right same]) rfl rfl

namespace Stands

/-- A new value has no futures, whether they are pinned or not. -/
theorem new (value : α) : (PinnedWatchedValue.new value).Stands (.new value) := by
  refine ⟨rfl, rfl, rfl, .empty fun _ _ linked => ?_, fun id => ?_⟩
  · cases linked
  · refine ⟨fun member => absurd member List.not_mem_nil, ?_⟩
    rintro ⟨task, held⟩
    cases held

/-- A future that waits is pinned. -/
theorem live (stands : pinned.Stands watched) (waiting : id ∈ watched.waiters) :
    (read pinned.nodes.values id).isSome := by
  obtain ⟨task, held⟩ := (stands.registered id).mp waiting
  rw [held]
  rfl

/-- A modification wakes and completes the same futures. -/
theorem modify (stands : pinned.Stands watched) (f : α → α) :
    ∃ pinned' watched', pinned.modify f = .ok pinned' ∧ watched.modify f = .ok watched' ∧
      pinned'.Stands watched' := by
  obtain ⟨completed, reads⟩ := complete_visits
    (fun id member => stands.live (List.mem_reverse.mp member)) (f pinned.value) pinned.woken
  obtain ⟨value, woken, sameFutures, represents, registered⟩ := stands
  obtain ⟨nodes, drained, values, empty⟩ :=
    LinkedList.reverseDrain_spec complete pinned.woken represents
  let visited := Sequence.visitAll complete watched.waiters.reverse
    (pinned.woken, pinned.nodes.values)
  refine ⟨⟨f pinned.value, ⟨none, none⟩, nodes, visited.1⟩,
    ⟨f pinned.value, [], asFutures visited.2, visited.1⟩, ?_, ?_, rfl, rfl, ?_, empty, ?_⟩
  · rw [PinnedWatchedValue.modify, drained]
    rfl
  · rw [WatchedValue.modify, ← value, ← woken, sameFutures]
    exact completed
  · exact congrArg asFutures values.symm
  · intro id
    refine ⟨fun member => absurd member List.not_mem_nil, ?_⟩
    rintro ⟨task, held⟩
    dsimp only at held
    rw [values, reads] at held
    split at held
    · cases held
    · rename_i outside
      exact absurd (List.mem_reverse.mpr ((registered id).mpr ⟨task, held⟩)) outside

/-- A future is there exactly if its node is, with the same state. -/
theorem read_watched (stands : pinned.Stands watched) (id : FutureId) :
    read watched.futures id = (read pinned.nodes id).map fun node => .completable node.data := by
  rw [stands.futures, read_asFutures, NodeMemory.read_values, Option.map_map]
  rfl

/-- A new future is not in the list. -/
theorem watch (stands : pinned.Stands watched) :
    pinned.watch.1 = watched.watch.1 ∧ pinned.watch.2.Stands watched.watch.2 := by
  obtain ⟨value, woken, sameFutures, represents, registered⟩ := stands
  have length : pinned.nodes.length = watched.futures.length := by
    rw [sameFutures, asFutures, List.length_map, NodeMemory.length_values]
  have values : NodeMemory.values (pinned.nodes ++ [some (.new ⟨none, .unregistered⟩)]) =
      pinned.nodes.values ++ [some ⟨none, .unregistered⟩] := List.map_append
  refine ⟨?_, value, woken, ?_, ?_, fun id => ?_⟩
  · rw [PinnedWatchedValue.watch, WatchedValue.watch, WatchedValue.get, value, length]
  · rw [PinnedWatchedValue.watch, WatchedValue.watch, values, sameFutures, asFutures, asFutures,
      List.map_append]
    rfl
  · exact PinnedNodes.represents_pin represents _
  · refine (registered id).trans ?_
    rw [PinnedWatchedValue.watch, values, read_append]
    by_cases same : id = pinned.nodes.values.length
    · rw [if_pos same]
      constructor
      · rintro ⟨task, held⟩
        exact absurd same (Nat.ne_of_lt (inside_of_read held))
      · rintro ⟨task, held⟩
        cases held
    · rw [if_neg same]

/-- The data of one future is written, and the list changes for no other one. -/
theorem write (stands : pinned.Stands watched) {entry : WatchEntry}
    (held : read pinned.nodes.values id = some entry) {data : WatchEntry}
    {waiters : List FutureId} {list : LinkedList} {nodes : NodeMemory WatchEntry}
    (values : nodes.values = pinned.nodes.values.set id (some data))
    (represents : Represents nodes.links list.head list.tail waiters)
    (others : ∀ other, other ≠ id → (other ∈ waiters ↔ other ∈ watched.waiters))
    (here : id ∈ waiters ↔ data.state = .registered) :
    Stands { pinned with waiters := list, nodes } { watched.put id data with waiters } := by
  refine ⟨stands.value, stands.woken, ?_, represents, fun other => ?_⟩
  · rw [values, asFutures_set, ← stands.futures]
    rfl
  · rw [values, read_set (inside_of_read held)]
    by_cases same : other = id
    · rw [if_pos same, same, here]
      constructor
      · rintro registered
        exact ⟨data.task, congrArg some (congrArg (WatchEntry.mk data.task) registered)⟩
      · rintro ⟨task, written⟩
        rw [Option.some.inj written]
    · rw [if_neg same, others other same]
      exact stands.registered other

/-- The memory of a future that is in no list is gone. -/
theorem free (stands : pinned.Stands watched) {entry : WatchEntry}
    (held : read pinned.nodes.values id = some entry) {waiters : List FutureId} {list : LinkedList}
    {nodes : NodeMemory WatchEntry} (values : nodes.values = pinned.nodes.values)
    (represents : Represents nodes.links list.head list.tail waiters)
    (others : ∀ other, other ≠ id → (other ∈ waiters ↔ other ∈ watched.waiters))
    (outside : id ∉ waiters) :
    Stands (PinnedWatchedValue.free { pinned with waiters := list, nodes } id)
      (WatchedValue.free { watched with waiters } id) := by
  refine ⟨stands.value, stands.woken, ?_, PinnedNodes.represents_unpin represents outside,
    fun other => ?_⟩
  · rw [PinnedWatchedValue.free, NodeMemory.values_set, values, asFutures_set, ← stands.futures]
    rfl
  · rw [PinnedWatchedValue.free, NodeMemory.values_set, values, read_set (inside_of_read held)]
    by_cases same : other = id
    · subst same
      rw [if_pos rfl]
      refine ⟨fun member => absurd member outside, ?_⟩
      rintro ⟨task, gone⟩
      cases gone
    · rw [if_neg same]
      exact (others other same).trans (stands.registered other)

/-- A future is in the list exactly if it is registered. -/
theorem waiting_iff (stands : pinned.Stands watched) {entry : WatchEntry}
    (held : read pinned.nodes.values id = some entry) :
    id ∈ watched.waiters ↔ entry.state = .registered := by
  refine (stands.registered id).trans ?_
  rw [held]
  constructor
  · rintro ⟨task, same⟩
    rw [Option.some.inj same]
  · intro registered
    exact ⟨entry.task, congrArg some (congrArg (WatchEntry.mk entry.task) registered)⟩

/-- A poll puts a future in the list if it has not been polled yet. -/
theorem poll (stands : pinned.Stands watched) {node : ListNode WatchEntry}
    (held : read pinned.nodes id = some node) (waker : Waker) :
    ∃ pinned', pinned.poll id waker node.data =
        .ok (pinned', (watched.poll id waker (.completable node.data)).2) ∧
      pinned'.Stands (watched.poll id waker (.completable node.data)).1 := by
  have value : read pinned.nodes.values id = some node.data := by
    rw [NodeMemory.read_values, held]
    rfl
  have waiting := stands.waiting_iff value
  have same : ∀ other, other ≠ id → (other ∈ watched.waiters ↔ other ∈ watched.waiters) :=
    fun _ _ => Iff.rfl
  have kept {nodes : NodeMemory WatchEntry}
      (links : ∀ other, nodes.links other = pinned.nodes.links other) :
      Represents nodes.links pinned.waiters.head pinned.waiters.tail watched.waiters := by
    rw [show nodes.links = pinned.nodes.links from funext links]
    exact stands.represents
  cases state : node.data.state with
  | unregistered =>
    have after : watched.poll id waker (.completable node.data) =
        ({ watched.put id ⟨some waker, .registered⟩ with waiters := id :: watched.waiters },
          false) := by
      simp only [WatchedValue.poll, state]
      rfl
    rw [after]
    obtain ⟨nodes, written, values, links⟩ := write_data held ⟨some waker, .registered⟩
    have outside : id ∉ watched.waiters := by
      rw [waiting, state]
      exact nofun
    have there : (read nodes.values id).isSome := by
      rw [values, read_set (inside_of_read value), if_pos rfl]
      rfl
    obtain ⟨list, nodes', added, values', represents⟩ :=
      LinkedList.addFront_spec (kept links) outside there
    refine ⟨{ pinned with waiters := list, nodes := nodes' }, ?_, ?_⟩
    · simp only [PinnedWatchedValue.poll, written, added, bind, Except.bind, state]
      rfl
    · refine stands.write value (values'.trans values) represents (fun other elsewhere => ?_) ?_
      · rw [List.mem_cons, or_iff_right elsewhere]
      · exact iff_of_true List.mem_cons_self rfl
  | registered =>
    have after : watched.poll id waker (.completable node.data) = (watched.put id
        ⟨if node.data.task = some waker then node.data.task else some waker, .registered⟩,
          false) := by
      simp only [WatchedValue.poll, state]
    rw [after]
    obtain ⟨nodes, written, values, links⟩ := write_data held
      ⟨if node.data.task = some waker then node.data.task else some waker, .registered⟩
    refine ⟨{ pinned with nodes }, ?_, ?_⟩
    · simp only [PinnedWatchedValue.poll, written, bind, Except.bind, state]
      rfl
    · exact stands.write value values (kept links) same (iff_of_true (waiting.mpr state) rfl)
  | completed polled =>
    have after : watched.poll id waker (.completable node.data) =
        (watched.put id ⟨node.data.task, .completed true⟩, true) := by
      simp only [WatchedValue.poll, state]
    rw [after]
    obtain ⟨nodes, written, values, links⟩ := write_data held ⟨node.data.task, .completed true⟩
    refine ⟨{ pinned with nodes }, ?_, ?_⟩
    · simp only [PinnedWatchedValue.poll, written, bind, Except.bind, state]
      rfl
    · refine stands.write value values (kept links) same (iff_of_false ?_ nofun)
      rw [waiting, state]
      exact nofun

/-- A future that is dropped is taken out of the list if it is in it. -/
theorem drop (profile : Profile) (stands : pinned.Stands watched) {node : ListNode WatchEntry}
    (held : read pinned.nodes id = some node) :
    ∃ pinned' watched', pinned.dropFuture profile id node.data = .ok pinned' ∧
      watched.dropFuture id (.completable node.data) = .ok watched' ∧
      pinned'.Stands watched' := by
  have value : read pinned.nodes.values id = some node.data := by
    rw [NodeMemory.read_values, held]
    rfl
  have waiting := stands.waiting_iff value
  have unregistered (other : node.data.state ≠ .registered) : Stands (pinned.free id)
      (watched.free id) :=
    stands.free value rfl stands.represents (fun _ _ => Iff.rfl) (mt waiting.mp other)
  cases state : node.data.state with
  | registered =>
    have member := waiting.mpr state
    obtain ⟨list, nodes, removed, values, represents⟩ :=
      LinkedList.remove_spec profile stands.represents (stands.live member)
    have distinct := stands.represents.distinct
    refine ⟨PinnedWatchedValue.free { pinned with waiters := list, nodes } id,
      WatchedValue.free { watched with waiters := watched.waiters.erase id } id, ?_, ?_, ?_⟩
    · simp only [PinnedWatchedValue.dropFuture, state, removed, member, decide_true, bind,
        Except.bind, if_true]
      rfl
    · simp only [WatchedValue.dropFuture, state, member, if_true]
    · refine stands.free value values represents (fun other elsewhere => ?_) ?_
      · exact List.mem_erase_of_ne elsewhere
      · exact distinct.not_mem_erase
  | unregistered =>
    refine ⟨pinned.free id, watched.free id, ?_, ?_, unregistered (by rw [state]; exact nofun)⟩
    · simp only [PinnedWatchedValue.dropFuture, state]
    · simp only [WatchedValue.dropFuture, state]
  | completed polled =>
    refine ⟨pinned.free id, watched.free id, ?_, ?_, unregistered (by rw [state]; exact nofun)⟩
    · simp only [PinnedWatchedValue.dropFuture, state]
    · simp only [WatchedValue.dropFuture, state]

end Stands

/-- Every action is answered as without the pointers. -/
theorem serve_simulates (profile : Profile) (action : Action α) (stands : pinned.Stands watched) :
    ∃ pinned' watched' answer, pinned.serve profile action = .ok (pinned', answer) ∧
      Watched.serve watched action = .ok (watched', answer) ∧ pinned'.Stands watched' := by
  cases action with
  | watch =>
    obtain ⟨answer, stands'⟩ := stands.watch
    refine ⟨_, _, _, rfl, ?_, stands'⟩
    rw [answer]
    rfl
  | modify f =>
    obtain ⟨pinned', watched', modified, modified', stands'⟩ := stands.modify f
    refine ⟨pinned', watched', .done, ?_, ?_, stands'⟩
    · simp only [serve, modified, bind, Except.bind]
      rfl
    · simp only [Watched.serve, modified', bind, Except.bind]
      rfl
  | set newValue =>
    obtain ⟨pinned', watched', modified, modified', stands'⟩ := stands.modify fun _ => newValue
    refine ⟨pinned', watched', .done, ?_, ?_, stands'⟩
    · simp only [serve, modified, bind, Except.bind]
      rfl
    · simp only [Watched.serve, WatchedValue.set, modified', bind, Except.bind]
      rfl
  | setWithoutNotify newValue =>
    exact ⟨_, _, _, rfl, rfl, { stands with value := rfl }⟩
  | poll id waker =>
    have known := stands.read_watched id
    cases held : read pinned.nodes id with
    | none =>
      rw [held] at known
      refine ⟨pinned, watched, .absent, ?_, ?_, stands⟩
      · simp only [serve, held]
      · simp only [Watched.serve, known, Option.map_none]
    | some node =>
      rw [held] at known
      obtain ⟨pinned', polled, stands'⟩ := stands.poll held waker
      refine ⟨pinned', _, .polled (watched.poll id waker (.completable node.data)).2, ?_, ?_,
        stands'⟩
      · simp only [serve, held, polled, bind, Except.bind]
        rfl
      · simp only [Watched.serve, known, Option.map_some]
  | drop id =>
    have known := stands.read_watched id
    cases held : read pinned.nodes id with
    | none =>
      rw [held] at known
      refine ⟨pinned, watched, .absent, ?_, ?_, stands⟩
      · simp only [serve, held]
      · simp only [Watched.serve, known, Option.map_none]
    | some node =>
      rw [held] at known
      obtain ⟨pinned', watched', dropped, dropped', stands'⟩ := stands.drop profile held
      refine ⟨pinned', watched', .done, ?_, ?_, stands'⟩
      · simp only [serve, held, dropped, bind, Except.bind]
        rfl
      · simp only [Watched.serve, known, Option.map_some, dropped', bind, Except.bind]
        rfl

/-- However a value is watched, modified and its futures polled and dropped, no pointer of the
list dangles, no assertion on the links fails and no future that is dropped is missed in the
list. The answers and the wakers that are called are those of the value whose waiters are
simply listed, and the links are those of its waiters.

Proof: one call is simulated by the same call on the value whose waiters are listed,
`serve_simulates`, in which the links follow the list. No call asks for anything, so
that the general rule applies to every list of calls. -/
theorem pointers_unnoticed (profile : Profile) (value : α) (actions : List (Action α)) :
    ∃ pinned watched answers,
      respond (serve profile) (new value) actions = .ok (pinned, answers) ∧
      respond Watched.serve (.new value) actions = .ok (watched, answers) ∧
      pinned.Stands watched :=
  respond_simulates (fun _ _ action stands _ => serve_simulates profile action stands)
    (Stands.new value) (permits_true _ _)

end PinnedWatchedValue

end Watched

end Capybara
