import Capybara.Collections.LinkedList
import Capybara.Lib.Runs

/-!
# The intrusive list as a sequence

The users of a list pin and unpin nodes and call the list in any order. They keep to what the
functions ask for: a node that is put in front is pinned and in no list, a node that is taken
out is pinned, and no node is unpinned while it is in the list. Then the list is a sequence of
nodes, no pointer dangles, no assertion fails and every drain ends.
-/

namespace Capybara

open Slots Runs LinkedNodes

variable {α σ : Type}

/-- The neighbours of a node. -/
def ListNode.links (node : ListNode α) : Links NodeId := ⟨node.prev, node.next⟩

/-- The data that is pinned, and the nodes of the list from the first to the last. -/
structure Sequence (α : Type) where
  values : Store α
  nodes : List NodeId
  deriving DecidableEq, Repr

namespace Sequence

/-- Nothing is pinned. -/
def new : Sequence α := ⟨[], []⟩

/-- The callback of a drain gets a node. -/
def visit (func : σ → α → σ × α) (reached : σ × Store α) (node : NodeId) : σ × Store α :=
  match read reached.2 node with
  | none => reached
  | some data => ((func reached.1 data).1, reached.2.set node (some (func reached.1 data).2))

/-- The callback gets one node after the other. -/
def visitAll (func : σ → α → σ × α) (nodes : List NodeId) (reached : σ × Store α) : σ × Store α :=
  nodes.foldl (visit func) reached

/-- What an action does to a sequence. -/
def serve (sequence : Sequence α) : ListAction α σ → Except ListFault (Sequence α × ListAnswer α σ)
  | .pin data =>
    .ok ({ sequence with values := sequence.values ++ [some data] },
      .pinned sequence.values.length)
  | .unpin node => .ok ({ sequence with values := sequence.values.set node none }, .done)
  | .addFront node => .ok ({ sequence with nodes := node :: sequence.nodes }, .done)
  | .peekFirst => .ok (sequence, .data (sequence.nodes.head?.bind (read sequence.values)))
  | .peekLast => .ok (sequence, .data (sequence.nodes.getLast?.bind (read sequence.values)))
  | .removeFirst =>
    .ok ({ sequence with nodes := sequence.nodes.tail }, .node sequence.nodes.head?)
  | .removeLast =>
    .ok ({ sequence with nodes := sequence.nodes.dropLast }, .node sequence.nodes.getLast?)
  | .isEmpty => .ok (sequence, .flag sequence.nodes.isEmpty)
  | .remove node =>
    .ok ({ sequence with nodes := sequence.nodes.erase node },
      .flag (decide (node ∈ sequence.nodes)))
  | .drain func state =>
    .ok (⟨(visitAll func sequence.nodes (state, sequence.values)).2, []⟩,
      .drained (visitAll func sequence.nodes (state, sequence.values)).1)
  | .reverseDrain func state =>
    .ok (⟨(visitAll func sequence.nodes.reverse (state, sequence.values)).2, []⟩,
      .drained (visitAll func sequence.nodes.reverse (state, sequence.values)).1)

/-- What the functions ask of their callers. -/
def Admissible (sequence : Sequence α) : ListAction α σ → Prop
  | .unpin node => node ∉ sequence.nodes
  | .addFront node => node ∉ sequence.nodes ∧ (read sequence.values node).isSome
  | .remove node => (read sequence.values node).isSome
  | _ => True

instance (sequence : Sequence α) (action : ListAction α σ) :
    Decidable (sequence.Admissible action) :=
  match action with
  | .unpin node => inferInstanceAs (Decidable (node ∉ sequence.nodes))
  | .addFront node =>
    inferInstanceAs (Decidable (node ∉ sequence.nodes ∧ (read sequence.values node).isSome))
  | .remove node => inferInstanceAs (Decidable ((read sequence.values node).isSome))
  | .pin _ | .peekFirst | .peekLast | .removeFirst | .removeLast | .isEmpty | .drain _ _
  | .reverseDrain _ _ => .isTrue trivial

end Sequence

namespace NodeMemory

variable {memory memory' : NodeMemory α} {node : NodeId}

/-- The neighbours of every node. -/
def links (memory : NodeMemory α) (node : NodeId) : Option (Links NodeId) :=
  (read memory node).map ListNode.links

/-- What the nodes carry. -/
def values (memory : NodeMemory α) : Store α := memory.map (Option.map ListNode.data)

/-- The data of the nodes, read one by one. -/
theorem read_values (memory : NodeMemory α) (node : NodeId) :
    read memory.values node = (read memory node).map ListNode.data :=
  read_map ListNode.data memory node

/-- There are as many data as nodes. -/
theorem length_values (memory : NodeMemory α) : memory.values.length = memory.length :=
  List.length_map _

/-- Writing a node writes its data. -/
theorem values_set (memory : NodeMemory α) (node : NodeId) (found : Option (ListNode α)) :
    NodeMemory.values (memory.set node found) =
      memory.values.set node (found.map ListNode.data) :=
  List.map_set ..

/-- A node with links is there, with its data. -/
theorem links_eq_some {link : Links NodeId} (linked : memory.links node = some link) :
    ∃ data, read memory node = some ⟨link.prev, link.next, data⟩ := by
  obtain ⟨⟨prev, next, data⟩, held, rfl⟩ := Option.map_eq_some_iff.mp linked
  exact ⟨data, held⟩

/-- A node is pinned as long as there are links for it. -/
theorem links_of_value (pinned : (read memory.values node).isSome) :
    ∃ link, memory.links node = some link := by
  rw [read_values, Option.isSome_map] at pinned
  obtain ⟨found, held⟩ := Option.isSome_iff_exists.mp pinned
  exact ⟨found.links, by rw [links, held]; rfl⟩

/-- Only the links of one node are written, if any. -/
structure Relinks (memory memory' : NodeMemory α) (pointer : Option NodeId)
    (change : Links NodeId → Links NodeId) : Prop where
  values : memory'.values = memory.values
  links : ∀ other, memory'.links other =
    if pointer = some other then (memory.links other).map change else memory.links other

/-- A node that is pinned can be written. -/
theorem write_relinks {link : Links NodeId} (linked : memory.links node = some link)
    (change : ListNode α → ListNode α) (relink : Links NodeId → Links NodeId)
    (data : ∀ found, (change found).data = found.data)
    (links : ∀ found, (change found).links = relink found.links) :
    ∃ memory', memory.write node change = .ok memory' ∧
      Relinks memory memory' (some node) relink := by
  obtain ⟨found, held, -⟩ := Option.map_eq_some_iff.mp linked
  refine ⟨memory.set node (some (change found)), ?_, ?_, ?_⟩
  · rw [write, held]
  · have before : read memory.values node = some found.data := by
      rw [read_values, held]
      rfl
    rw [values_set, Option.map_some, data, set_read before]
  · intro other
    rw [NodeMemory.links, read_set (inside_of_read held), NodeMemory.links]
    by_cases same : other = node
    · subst same
      rw [if_pos rfl, if_pos rfl, held, Option.map_some, Option.map_some, Option.map_some, links]
    · rw [if_neg same, if_neg fun here => same (Option.some.inj here).symm]

/-- Writing the node that a pointer names, if it names one, changes the links of this node only
and no data. -/
theorem writeIfSome_relinks {pointer : Option NodeId}
    (linked : ∀ node, pointer = some node → ∃ link, memory.links node = some link)
    (change : ListNode α → ListNode α) (relink : Links NodeId → Links NodeId)
    (data : ∀ found, (change found).data = found.data)
    (links : ∀ found, (change found).links = relink found.links) :
    ∃ memory', memory.writeIfSome pointer change = .ok memory' ∧
      Relinks memory memory' pointer relink := by
  cases pointer with
  | none => exact ⟨memory, rfl, rfl, fun other => (if_neg (Option.some_ne_none other).symm).symm⟩
  | some node =>
    obtain ⟨link, linked⟩ := linked node rfl
    exact write_relinks linked change relink data links

end NodeMemory

/-- A list that holds the nodes of a sequence, with their data. -/
structure PinnedNodes.Stands (pinned : PinnedNodes α) (sequence : Sequence α) : Prop where
  values : pinned.memory.values = sequence.values
  represents : Represents pinned.memory.links pinned.list.head pinned.list.tail sequence.nodes

/-- An assertion on links that holds passes in every profile. -/
theorem debugAssertLink_holds {profile : Profile} {condition : Bool} {fault : ListFault}
    (holds : condition = true) : debugAssertLink profile condition fault = .ok () := by
  rw [debugAssertLink, holds, Bool.not_true, Bool.and_false, if_neg Bool.false_ne_true]

namespace LinkedList

open NodeMemory

variable {memory : NodeMemory α} {list : LinkedList} {node : NodeId}
  {nodes front back : List NodeId}

/-- A pinned node is put in front. -/
theorem addFront_spec (represents : Represents memory.links list.head list.tail nodes)
    (absent : node ∉ nodes) (pinned : (read memory.values node).isSome) :
    ∃ list' memory', list.addFront node memory = .ok (list', memory') ∧
      memory'.values = memory.values ∧
      Represents memory'.links list'.head list'.tail (node :: nodes) := by
  obtain ⟨link, linked⟩ := links_of_value pinned
  have inside : ∀ head, list.head = some head → head ∈ nodes := fun head first =>
    List.mem_of_mem_head? (represents.head_eq ▸ first)
  have different : ∀ head, list.head = some head → some node ≠ some head := fun head first here =>
    absent (Option.some.inj here ▸ inside head first)
  obtain ⟨middle, written, middleWritten⟩ := write_relinks linked
    (fun found => { found with next := list.head, prev := none })
    (fun _ => ⟨none, list.head⟩) (fun _ => rfl) (fun _ => rfl)
  have live : ∀ head, list.head = some head → ∃ link, middle.links head = some link := by
    intro head first
    rw [middleWritten.links, if_neg (different head first)]
    exact represents.linked.live (inside head first)
  obtain ⟨memory', written', lastWritten⟩ := writeIfSome_relinks live
    (fun head => { head with prev := some node }) (fun link => { link with prev := some node })
    (fun _ => rfl) (fun _ => rfl)
  have tail : (if list.tail.isNone then some node else list.tail) = list.tail.or (some node) := by
    cases list.tail <;> rfl
  refine ⟨⟨some node, if list.tail.isNone then some node else list.tail⟩, memory', ?_, ?_, ?_⟩
  · simp only [addFront, written, written', bind, Except.bind]
    rfl
  · rw [lastWritten.values, middleWritten.values]
  · rw [tail]
    refine represents.push absent ?_ (fun second first => ?_) fun other elsewhere behind => ?_
    · rw [lastWritten.links, if_neg fun first => different node first rfl, middleWritten.links,
        if_pos rfl, linked]
      rfl
    · rw [lastWritten.links, if_pos first, middleWritten.links, if_neg (different second first)]
    · rw [lastWritten.links, if_neg behind, middleWritten.links,
        if_neg fun here => elsewhere (Option.some.inj here).symm]

/-- The data of a node that is in the list. -/
theorem deref_spec {link : Links NodeId} (linked : memory.links node = some link) :
    ∃ data, memory.deref node = .ok ⟨link.prev, link.next, data⟩ ∧
      read memory.values node = some data := by
  obtain ⟨data, held⟩ := links_eq_some linked
  refine ⟨data, ?_, ?_⟩
  · rw [deref, held]
  · rw [read_values, held]
    rfl

/-- The first node is seen with its data. -/
theorem peekFirst_spec (represents : Represents memory.links list.head list.tail nodes) :
    ∃ found, list.peekFirst memory = .ok found ∧
      found.map ListNode.data = nodes.head?.bind (read memory.values) := by
  unfold peekFirst
  rw [represents.head_eq]
  cases nodes with
  | nil => exact ⟨none, rfl, rfl⟩
  | cons node rest =>
    obtain ⟨link, linked⟩ := represents.linked.live List.mem_cons_self
    obtain ⟨data, held, value⟩ := deref_spec linked
    refine ⟨some ⟨link.prev, link.next, data⟩, ?_, value.symm⟩
    simp only [List.head?_cons, held]
    rfl

/-- The last node is seen with its data. -/
theorem peekLast_spec (represents : Represents memory.links list.head list.tail nodes) :
    ∃ found, list.peekLast memory = .ok found ∧
      found.map ListNode.data = nodes.getLast?.bind (read memory.values) := by
  unfold peekLast
  rw [represents.tail_eq]
  cases last : nodes.getLast? with
  | none => exact ⟨none, rfl, rfl⟩
  | some node =>
    obtain ⟨link, linked⟩ := represents.linked.live (List.mem_of_mem_getLast? last)
    obtain ⟨data, held, value⟩ := deref_spec linked
    refine ⟨some ⟨link.prev, link.next, data⟩, ?_, value.symm⟩
    simp only [held]
    rfl

/-- The list is empty if its sequence is; its two ends agree on that. -/
theorem isEmpty_spec (profile : Profile)
    (represents : Represents memory.links list.head list.tail nodes) :
    list.isEmpty profile = .ok nodes.isEmpty := by
  unfold isEmpty
  rw [represents.head_eq, represents.tail_eq]
  cases nodes with
  | nil => cases profile <;> rfl
  | cons node rest => rfl

/-- A node is bypassed: the node behind leads to the one in front, and it is clean itself. -/
structure Bypasses (memory memory' : NodeMemory α) (node : NodeId) (prev next : Option NodeId) :
    Prop where
  values : memory'.values = memory.values
  cleaned : memory'.links node = some .clean
  behind : ∀ first, next = some first → first ≠ node →
    memory'.links first = (memory.links first).map fun link => { link with prev := prev }
  same : ∀ other, other ≠ node → next ≠ some other → memory'.links other = memory.links other

/-- The second half of a removal: the node behind is linked to the node in front, or the tail
is. -/
theorem removeNext_spec (profile : Profile) (list : LinkedList) (found : ListNode α)
    (linked : ∃ link, memory.links node = some link)
    (last : found.next = none → list.tail = some node)
    (behind : ∀ next, found.next = some next →
      ∃ further, memory.links next = some ⟨some node, further⟩) :
    ∃ memory', removeNext profile list node found memory =
        .ok (true, { list with tail := if found.next = none then found.prev else list.tail },
          memory') ∧
      Bypasses memory memory' node found.prev found.next := by
  unfold removeNext
  cases next : found.next with
  | none =>
    obtain ⟨link, linked⟩ := linked
    obtain ⟨memory', written, cleaned⟩ := write_relinks linked
      (fun found => { found with next := none, prev := none }) (fun _ => .clean)
      (fun _ => rfl) (fun _ => rfl)
    refine ⟨memory', ?_, cleaned.values, ?_, nofun, fun other elsewhere _ => ?_⟩
    · simp only [last next, decide_true, debugAssertLink_holds, written, bind, Except.bind, if_true]
      rfl
    · rw [cleaned.links, if_pos rfl, linked]
      rfl
    · rw [cleaned.links, if_neg fun here => elsewhere (Option.some.inj here).symm]
  | some first =>
    obtain ⟨further, linkedFirst⟩ := behind first next
    obtain ⟨data, held, -⟩ := deref_spec linkedFirst
    obtain ⟨middle, written, bypassed⟩ := write_relinks linkedFirst
      (fun following => { following with prev := found.prev })
      (fun link => { link with prev := found.prev }) (fun _ => rfl) (fun _ => rfl)
    have linked : ∃ link, middle.links node = some link := by
      obtain ⟨link, linked⟩ := linked
      rw [bypassed.links]
      split
      · exact ⟨_, by rw [linked]; rfl⟩
      · exact ⟨link, linked⟩
    obtain ⟨link, linked⟩ := linked
    obtain ⟨memory', written', cleaned⟩ := write_relinks linked
      (fun found => { found with next := none, prev := none }) (fun _ => .clean)
      (fun _ => rfl) (fun _ => rfl)
    refine ⟨memory', ?_, ?_, ?_, fun other same elsewhere => ?_, fun other elsewhere apart => ?_⟩
    · simp only [held, decide_true, debugAssertLink_holds, written, written', bind, Except.bind,
        reduceCtorEq, if_false]
      rfl
    · rw [cleaned.values, bypassed.values]
    · rw [cleaned.links, if_pos rfl, linked]
      rfl
    · rw [cleaned.links, if_neg fun here => elsewhere (Option.some.inj here).symm, bypassed.links,
        if_pos same]
    · rw [cleaned.links, if_neg fun here => elsewhere (Option.some.inj here).symm, bypassed.links,
        if_neg apart]

/-- A pinned node is taken out if it is in the list. -/
theorem remove_spec (profile : Profile)
    (represents : Represents memory.links list.head list.tail nodes)
    (pinned : (read memory.values node).isSome) :
    ∃ list' memory', list.remove profile node memory =
        .ok (decide (node ∈ nodes), list', memory') ∧
      memory'.values = memory.values ∧
      Represents memory'.links list'.head list'.tail (nodes.erase node) := by
  obtain ⟨link, linked⟩ := links_of_value pinned
  obtain ⟨data, held, -⟩ := deref_spec linked
  by_cases member : node ∈ nodes
  case neg =>
    have cleaned := represents.clean node member link linked
    have elsewhere : list.head ≠ some node := fun first =>
      member (List.mem_of_mem_head? (represents.head_eq ▸ first))
    subst cleaned
    refine ⟨list, memory, ?_, rfl, ?_⟩
    · simp only [remove, held, bind, Except.bind, Links.clean, if_neg elsewhere,
        Option.isNone_none, debugAssertLink_holds, member, decide_false]
      rfl
    · rwa [List.erase_of_not_mem member]
  obtain ⟨front, back, rfl⟩ := List.append_of_mem member
  have outside : node ∉ front := fun inside =>
    (List.nodup_append.mp represents.distinct).2.2 node inside node List.mem_cons_self rfl
  rw [List.erase_append_right _ outside, List.erase_cons_head]
  obtain ⟨here, -, -⟩ := represents.split
  cases Option.some.inj (linked.symm.trans here)
  have last : back.head? = none → list.tail = some node := by
    intro last
    obtain rfl := List.head?_eq_none_iff.mp last
    exact represents.ends
  have tail (prev : Option NodeId) : (if back.head? = none then prev else list.tail) =
      if back = [] then prev else list.tail := if_congr List.head?_eq_none_iff rfl rfl
  obtain rfl | ⟨front, previous, rfl⟩ := List.eq_nil_or_concat' front
  · have first : list.head = some node := represents.head_eq
    obtain ⟨memory', removed, bypasses⟩ := removeNext_spec profile { list with head := back.head? }
      ⟨none, back.head?, data⟩ ⟨_, linked⟩ last fun next => represents.leads_back
    refine ⟨⟨back.head?, if back.head? = none then none else list.tail⟩, memory', ?_,
      bypasses.values, ?_⟩
    · simp only [remove, held, bind, Except.bind, List.getLast?_nil, first, if_true]
      rw [removed, decide_eq_true member]
    · refine represents.unlink (if_pos rfl).symm (tail none) bypasses.cleaned nofun ?_ ?_
      · exact fun first isFirst different _ => bypasses.behind first isFirst different
      · exact fun other elsewhere _ apart => bypasses.same other elsewhere apart
  · have lastIs : (front ++ [previous]).getLast? = some previous := List.getLast?_concat
    have inFront : previous ∈ front ++ [previous] := List.mem_of_mem_getLast? lastIs
    have different : previous ≠ node := fun here => outside (here ▸ inFront)
    have apart : ∀ first, back.head? = some first → previous ≠ first := by
      rintro first isFirst rfl
      exact (List.nodup_append.mp represents.distinct).2.2 previous inFront previous
        (List.mem_cons_of_mem _ (List.mem_of_mem_head? isFirst)) rfl
    obtain ⟨earlier, linkedLast⟩ := represents.leads_on lastIs
    obtain ⟨data', heldLast, -⟩ := deref_spec linkedLast
    obtain ⟨middle, written, bypassed⟩ := write_relinks linkedLast
      (fun previous => { previous with next := back.head? })
      (fun link => { link with next := back.head? }) (fun _ => rfl) (fun _ => rfl)
    have others {other : NodeId} (elsewhere : previous ≠ other) :
        middle.links other = memory.links other := by
      rw [bypassed.links, if_neg fun here => elsewhere (Option.some.inj here)]
    obtain ⟨memory', removed, bypasses⟩ := removeNext_spec profile list
      ⟨some previous, back.head?, data⟩ ⟨_, (others different).trans linked⟩ last
      fun first isFirst => by
        rw [others (apart first isFirst)]
        exact represents.leads_back isFirst
    refine ⟨⟨list.head, if back.head? = none then some previous else list.tail⟩, memory', ?_,
      bypasses.values.trans bypassed.values, ?_⟩
    · simp only [remove, held, bind, Except.bind, lastIs, heldLast, decide_true,
        debugAssertLink_holds, written]
      rw [removed, decide_eq_true member]
    · refine represents.unlink (if_neg ?_).symm ?_ bypasses.cleaned ?_ ?_ ?_
      · exact List.append_ne_nil_of_right_ne_nil _ (List.cons_ne_nil _ _)
      · rw [lastIs]
        exact tail (some previous)
      · intro other isLast elsewhere behind
        cases isLast.symm.trans lastIs
        rw [bypasses.same previous elsewhere behind, bypassed.links, if_pos rfl]
      · intro first isFirst elsewhere _
        rw [bypasses.behind first isFirst elsewhere, others (apart first isFirst), lastIs]
      · intro other elsewhere notLast notFirst
        rw [bypasses.same other elsewhere notFirst]
        exact others fun here => notLast (lastIs.trans (congrArg some here))

/-- `remove_first` is `remove` of the first node. -/
theorem removeFirst_eq (profile : Profile)
    (represents : Represents memory.links list.head list.tail (node :: back)) :
    list.removeFirst profile memory =
      (list.remove profile node memory).map fun removed => (some node, removed.2) := by
  have here : memory.links node = some ⟨none, back.head?⟩ := represents.linked.1.trans (by
    rw [Option.or_none])
  have first : list.head = some node := represents.head_eq
  obtain ⟨data, held, -⟩ := deref_spec here
  unfold removeFirst remove removeNext
  cases next : back.head? with
  | none =>
    obtain rfl := List.head?_eq_none_iff.mp next
    have last : list.tail = some node := represents.tail_eq
    simp only [first, held, next, last, decide_true, debugAssertLink_holds, bind, Except.bind,
      if_true]
    cases memory.write node fun found => { found with next := none, prev := none } <;> rfl
  | some second =>
    have behind : Represents memory.links list.head list.tail ([] ++ node :: back) := represents
    obtain ⟨further, linked⟩ := behind.leads_back next
    obtain ⟨data', held', -⟩ := deref_spec linked
    simp only [first, held, next, held', decide_true, debugAssertLink_holds, bind, Except.bind,
      if_true]
    cases memory.write second fun following => { following with prev := none } with
    | error fault => rfl
    | ok memory =>
      dsimp only
      cases memory.write node fun found => { found with next := none, prev := none } <;> rfl

/-- `remove_last` is `remove` of the last node. -/
theorem removeLast_eq (profile : Profile)
    (represents : Represents memory.links list.head list.tail (front ++ [node])) :
    list.removeLast profile memory =
      (list.remove profile node memory).map fun removed => (some node, removed.2) := by
  obtain ⟨here, -, -⟩ := represents.split
  have last : list.tail = some node := represents.ends
  obtain ⟨data, held, -⟩ := deref_spec here
  unfold removeLast remove removeNext
  cases prev : front.getLast? with
  | none =>
    obtain rfl := List.getLast?_eq_none_iff.mp prev
    have first : list.head = some node := represents.head_eq
    simp only [first, held, prev, last, decide_true, debugAssertLink_holds, bind, Except.bind,
      if_true, List.head?_nil]
    cases memory.write node fun found => { found with next := none, prev := none } <;> rfl
  | some previous =>
    obtain ⟨earlier, linked⟩ := represents.leads_on prev
    obtain ⟨data', held', -⟩ := deref_spec linked
    simp only [held, prev, held', last, decide_true, debugAssertLink_holds, bind, Except.bind,
      List.head?_nil]
    cases memory.write previous fun previous => { previous with next := none } with
    | error fault => rfl
    | ok memory =>
      dsimp only
      cases memory.write node fun found => { found with next := none, prev := none } <;> rfl

/-- A node that is in the list is pinned. -/
theorem pinned_of_mem (represents : Represents memory.links list.head list.tail nodes)
    (member : node ∈ nodes) : (read memory.values node).isSome := by
  obtain ⟨link, linked⟩ := represents.linked.live member
  obtain ⟨data, -, value⟩ := deref_spec linked
  rw [value]
  rfl

/-- The first node is taken off, or there is none. -/
theorem removeFirst_spec (profile : Profile)
    (represents : Represents memory.links list.head list.tail nodes) :
    ∃ list' memory', list.removeFirst profile memory = .ok (nodes.head?, list', memory') ∧
      memory'.values = memory.values ∧
      Represents memory'.links list'.head list'.tail nodes.tail := by
  cases nodes with
  | nil =>
    refine ⟨list, memory, ?_, rfl, represents⟩
    unfold removeFirst
    rw [represents.head_eq]
    rfl
  | cons node rest =>
    obtain ⟨list', memory', removed, values, represents'⟩ :=
      remove_spec profile represents (pinned_of_mem represents List.mem_cons_self)
    rw [List.erase_cons_head] at represents'
    refine ⟨list', memory', ?_, values, represents'⟩
    rw [removeFirst_eq profile represents, removed]
    rfl

/-- The last node is taken off, or there is none. -/
theorem removeLast_spec (profile : Profile)
    (represents : Represents memory.links list.head list.tail nodes) :
    ∃ list' memory', list.removeLast profile memory = .ok (nodes.getLast?, list', memory') ∧
      memory'.values = memory.values ∧
      Represents memory'.links list'.head list'.tail nodes.dropLast := by
  obtain rfl | ⟨front, node, rfl⟩ := List.eq_nil_or_concat' nodes
  · refine ⟨list, memory, ?_, rfl, represents⟩
    unfold removeLast
    rw [represents.tail_eq]
    rfl
  · have member : node ∈ front ++ [node] := List.mem_append_right _ List.mem_cons_self
    have outside : node ∉ front := fun inside =>
      (List.nodup_append.mp represents.distinct).2.2 node inside node List.mem_cons_self rfl
    obtain ⟨list', memory', removed, values, represents'⟩ :=
      remove_spec profile represents (pinned_of_mem represents member)
    rw [List.erase_append_right _ outside, List.erase_cons_head, List.append_nil] at represents'
    refine ⟨list', memory', ?_, values, ?_⟩
    · rw [removeLast_eq profile represents, removed, List.getLast?_concat]
      rfl
    · rwa [List.dropLast_concat]

/-- The loop visits the nodes that it is led along, and leaves them clean. -/
theorem drainFrom_spec (follow : ListNode α → Option NodeId) (along : Links NodeId → Option NodeId)
    (follows : ∀ found, follow found = along found.links) (func : σ → α → σ × α)
    (path : Path memory.links along nodes) (distinct : nodes.Nodup) {turns : Nat}
    (enough : nodes.length ≤ turns) (state : σ) :
    ∃ memory', drainFrom follow func turns nodes.head? state memory =
        .ok ((Sequence.visitAll func nodes (state, memory.values)).1, memory') ∧
      memory'.values = (Sequence.visitAll func nodes (state, memory.values)).2 ∧
      ∀ other, memory'.links other =
        if other ∈ nodes then some .clean else memory.links other := by
  induction nodes generalizing turns state memory with
  | nil =>
    refine ⟨memory, ?_, rfl, fun other => (if_neg List.not_mem_nil).symm⟩
    cases turns <;> rfl
  | cons node rest inductionHypothesis =>
    obtain ⟨⟨link, linked, leads⟩, later⟩ := path
    obtain ⟨outside, distinct⟩ := List.nodup_cons.mp distinct
    obtain ⟨data, held⟩ := links_eq_some linked
    have links (other : NodeId) :
        NodeMemory.links (memory.set node (some (.new (func state data).2))) other =
          if other = node then some .clean else memory.links other := by
      unfold NodeMemory.links
      rw [read_set (inside_of_read held)]
      split <;> rfl
    have value : read memory.values node = some data := by
      rw [read_values, held]
      rfl
    have visited : Sequence.visit func (state, memory.values) node = ((func state data).1,
        NodeMemory.values (memory.set node (some (.new (func state data).2)))) := by
      rw [Sequence.visit, value, values_set]
      rfl
    cases turns with
    | zero => exact absurd enough (Nat.not_succ_le_zero _)
    | succ turns =>
      obtain ⟨memory', drained, values, cleaned⟩ := inductionHypothesis
        (later.keep fun other member => (links other).trans (if_neg (by
          rintro rfl
          exact outside member)))
        distinct (Nat.le_of_succ_le_succ enough) (func state data).1
      rw [← visited] at drained values
      refine ⟨memory', ?_, values, fun other => ?_⟩
      · have next : follow ⟨link.prev, link.next, data⟩ = rest.head? := (follows _).trans leads
        simp only [drainFrom, List.head?_cons, held, next]
        exact drained
      · rw [cleaned, links]
        by_cases here : other = node
        · rw [if_pos here, ite_self, if_pos (List.mem_cons.mpr (.inl here))]
        · rw [if_neg here]
          exact if_congr (by rw [List.mem_cons, or_iff_right here]) rfl rfl

/-- There are no more nodes in the list than slots. -/
theorem length_le_memory (represents : Represents memory.links list.head list.tail nodes) :
    nodes.length ≤ memory.length := by
  have inside : nodes ⊆ List.range memory.length := by
    intro node member
    obtain ⟨link, linked⟩ := represents.linked.live member
    obtain ⟨data, held⟩ := links_eq_some linked
    exact List.mem_range.mpr (inside_of_read held)
  have shorter := (represents.distinct.subperm inside).length_le
  rwa [List.length_range] at shorter

/-- A list that has been drained is empty. -/
theorem represents_drained (represents : Represents memory.links list.head list.tail nodes)
    {memory' : NodeMemory α} {visited : List NodeId} (all : ∀ node, node ∈ visited ↔ node ∈ nodes)
    (links : ∀ other, memory'.links other =
      if other ∈ visited then some .clean else memory.links other) :
    Represents memory'.links none none [] := by
  refine .empty fun node link linked => ?_
  rw [links] at linked
  split at linked
  · exact (Option.some.inj linked).symm
  · rename_i outside
    exact represents.clean node (fun member => outside ((all node).mpr member)) link linked

/-- A drain visits the nodes from the first to the last, unlinks all of them and leaves an empty
list. -/
theorem drain_spec (func : σ → α → σ × α) (state : σ)
    (represents : Represents memory.links list.head list.tail nodes) :
    ∃ memory', list.drain func state memory =
        .ok ((Sequence.visitAll func nodes (state, memory.values)).1, ⟨none, none⟩, memory') ∧
      memory'.values = (Sequence.visitAll func nodes (state, memory.values)).2 ∧
      Represents memory'.links none none [] := by
  obtain ⟨memory', drained, values, links⟩ := drainFrom_spec ListNode.next Links.next (fun _ => rfl)
    func represents.linked.forward represents.distinct
    (Nat.le_succ_of_le (length_le_memory represents)) state
  refine ⟨memory', ?_, values, represents_drained represents (fun _ => Iff.rfl) links⟩
  rw [drain, represents.head_eq, drained]
  rfl

/-- The drain in the other direction visits them from the last to the first. -/
theorem reverseDrain_spec (func : σ → α → σ × α) (state : σ)
    (represents : Represents memory.links list.head list.tail nodes) :
    ∃ memory', list.reverseDrain func state memory =
        .ok ((Sequence.visitAll func nodes.reverse (state, memory.values)).1, ⟨none, none⟩,
          memory') ∧
      memory'.values = (Sequence.visitAll func nodes.reverse (state, memory.values)).2 ∧
      Represents memory'.links none none [] := by
  have enough : nodes.reverse.length ≤ memory.length + 1 := by
    rw [List.length_reverse]
    exact Nat.le_succ_of_le (length_le_memory represents)
  obtain ⟨memory', drained, values, links⟩ := drainFrom_spec ListNode.prev Links.prev (fun _ => rfl)
    func represents.linked.backward (List.nodup_reverse.mpr represents.distinct) enough state
  refine ⟨memory', ?_, values, represents_drained represents (fun _ => List.mem_reverse) links⟩
  rw [reverseDrain, represents.tail_eq, ← List.head?_reverse, drained]
  rfl

end LinkedList

namespace PinnedNodes

open NodeMemory LinkedList

variable {pinned : PinnedNodes α} {sequence : Sequence α}

/-- A new node is linked to nothing. -/
theorem links_pin (memory : NodeMemory α) (data : α) (other : NodeId) :
    NodeMemory.links (memory ++ [some (.new data)]) other =
      if other = memory.length then some .clean else memory.links other := by
  unfold NodeMemory.links
  rw [read_append]
  split <;> rfl

/-- A node that is gone has no links, and those of the others stay. -/
theorem links_unpin (memory : NodeMemory α) (node other : NodeId) :
    NodeMemory.links (memory.set node none) other =
      if other = node then none else memory.links other := by
  unfold NodeMemory.links
  obtain inside | outside := Nat.lt_or_ge node memory.length
  · rw [read_set inside]
    split <;> rfl
  · rw [List.set_eq_of_length_le outside]
    split
    · rename_i same
      rw [Slots.read, List.getElem?_eq_none (same ▸ outside)]
      rfl
    · rfl

/-- A new node is clean. -/
theorem represents_pin {list : LinkedList} {memory : NodeMemory α} {nodes : List NodeId}
    (represents : Represents memory.links list.head list.tail nodes) (data : α) :
    Represents (NodeMemory.links (memory ++ [some (.new data)])) list.head list.tail nodes := by
  refine represents.keep (fun node member => ?_) fun node outside link linked => ?_
  · obtain ⟨link, linked⟩ := represents.linked.live member
    obtain ⟨data, held⟩ := links_eq_some linked
    rw [links_pin, if_neg (Nat.ne_of_lt (inside_of_read held))]
  · rw [links_pin] at linked
    split at linked
    · exact (Option.some.inj linked).symm
    · exact represents.clean node outside link linked

/-- A node outside the list can go. -/
theorem represents_unpin {list : LinkedList} {memory : NodeMemory α} {nodes : List NodeId}
    {node : NodeId} (represents : Represents memory.links list.head list.tail nodes)
    (outside : node ∉ nodes) :
    Represents (NodeMemory.links (memory.set node none)) list.head list.tail nodes := by
  refine represents.keep (fun other member => ?_) fun other absent link linked => ?_
  · rw [links_unpin, if_neg]
    rintro rfl
    exact outside member
  · rw [links_unpin] at linked
    split at linked
    · cases linked
    · exact represents.clean other absent link linked

/-- Every action is answered as by the sequence. -/
theorem serve_simulates (profile : Profile) (action : ListAction α σ)
    (stands : pinned.Stands sequence) (admissible : sequence.Admissible action) :
    ∃ pinned' sequence' answer, pinned.serve profile action = .ok (pinned', answer) ∧
      sequence.serve action = .ok (sequence', answer) ∧ pinned'.Stands sequence' := by
  obtain ⟨list, memory⟩ := pinned
  obtain ⟨values, nodes⟩ := sequence
  obtain ⟨rfl, represents⟩ := stands
  dsimp only at represents
  cases action with
  | pin data =>
    refine ⟨⟨list, memory ++ [some (.new data)]⟩, ⟨memory.values ++ [some data], nodes⟩,
      .pinned memory.length, rfl, ?_, ?_, ?_⟩
    · rw [Sequence.serve, length_values]
    · exact List.map_append
    · exact represents_pin represents data
  | unpin node =>
    exact ⟨_, _, _, rfl, rfl, values_set .., represents_unpin represents admissible⟩
  | addFront node =>
    obtain ⟨list', memory', added, values, represents'⟩ :=
      addFront_spec represents admissible.1 admissible.2
    refine ⟨⟨list', memory'⟩, _, _, ?_, rfl, values, represents'⟩
    simp only [serve, added, bind, Except.bind]
    rfl
  | peekFirst =>
    obtain ⟨found, peeked, data⟩ := peekFirst_spec represents
    refine ⟨⟨list, memory⟩, _, _, ?_, rfl, rfl, represents⟩
    simp only [serve, peeked, bind, Except.bind, data]
    rfl
  | peekLast =>
    obtain ⟨found, peeked, data⟩ := peekLast_spec represents
    refine ⟨⟨list, memory⟩, _, _, ?_, rfl, rfl, represents⟩
    simp only [serve, peeked, bind, Except.bind, data]
    rfl
  | removeFirst =>
    obtain ⟨list', memory', removed, values, represents'⟩ := removeFirst_spec profile represents
    refine ⟨⟨list', memory'⟩, _, _, ?_, rfl, values, represents'⟩
    simp only [serve, removed, bind, Except.bind]
    rfl
  | removeLast =>
    obtain ⟨list', memory', removed, values, represents'⟩ := removeLast_spec profile represents
    refine ⟨⟨list', memory'⟩, _, _, ?_, rfl, values, represents'⟩
    simp only [serve, removed, bind, Except.bind]
    rfl
  | isEmpty =>
    refine ⟨⟨list, memory⟩, _, _, ?_, rfl, rfl, represents⟩
    simp only [serve, isEmpty_spec profile represents, bind, Except.bind]
    rfl
  | remove node =>
    obtain ⟨list', memory', removed, values, represents'⟩ :=
      remove_spec profile represents admissible
    refine ⟨⟨list', memory'⟩, _, _, ?_, rfl, values, represents'⟩
    simp only [serve, removed, bind, Except.bind]
    rfl
  | drain func state =>
    obtain ⟨memory', drained, values, represents'⟩ := drain_spec func state represents
    refine ⟨⟨⟨none, none⟩, memory'⟩, _, _, ?_, rfl, values, represents'⟩
    simp only [serve, drained, bind, Except.bind]
    rfl
  | reverseDrain func state =>
    obtain ⟨memory', drained, values, represents'⟩ := reverseDrain_spec func state represents
    refine ⟨⟨⟨none, none⟩, memory'⟩, _, _, ?_, rfl, values, represents'⟩
    simp only [serve, drained, bind, Except.bind]
    rfl

/-- The new list stands for the empty sequence. -/
theorem stands_new : (new : PinnedNodes α).Stands .new :=
  ⟨rfl, .empty fun _ _ linked => nomatch linked⟩

/-- However a list and its nodes are used, as long as the callers keep to what the functions ask
for, every call returns, in debug builds without a failed assertion, and answers as a sequence
of nodes would. The links are those of the sequence, and all other nodes are clean.

Proof: one call is simulated by one operation on the sequence, `serve_simulates`, by
cases on the call; a list of calls is then the general rule. -/
theorem list_is_sequence (profile : Profile) {actions : List (ListAction α σ)}
    (permits : Permits Sequence.serve Sequence.Admissible .new actions) :
    ∃ pinned sequence answers,
      respond (serve profile) (new : PinnedNodes α) actions = .ok (pinned, answers) ∧
      respond Sequence.serve .new actions = .ok (sequence, answers) ∧ pinned.Stands sequence :=
  respond_simulates
    (fun _ _ action stands admissible => serve_simulates profile action stands admissible)
    stands_new permits

/-- Three nodes are put in front, one is taken out of the middle, and the others are drained
from the last to the first. -/
theorem list_is_sequence_three_nodes :
    ∃ pinned, respond (serve .dev) (new : PinnedNodes Nat) [.pin 31, .pin 7, .pin 5, .addFront 0,
        .addFront 1, .addFront 2, .peekFirst, .remove 1, .remove 1, .unpin 1,
        .reverseDrain (fun seen data => (seen ++ [data], data + 1)) [], .isEmpty] =
      .ok (pinned, [.pinned 0, .pinned 1, .pinned 2, .done, .done, .done, .data (some 5),
        .flag true, .flag false, .done, .drained [31, 5], .flag true]) ∧
      pinned.Stands ⟨[some 32, none, some 6], []⟩ := by
  have permits : Permits Sequence.serve Sequence.Admissible (.new : Sequence Nat) [.pin 31, .pin 7,
      .pin 5, .addFront 0, .addFront 1, .addFront 2, .peekFirst, .remove 1, .remove 1, .unpin 1,
      .reverseDrain (fun seen data => (seen ++ [data], data + 1)) [], .isEmpty] := by
    repeat (refine ⟨by decide, ?_⟩; rintro _ _ ⟨⟩)
    trivial
  obtain ⟨pinned, sequence, answers, responded, modelled, stands⟩ := list_is_sequence .dev permits
  cases modelled
  exact ⟨pinned, responded, stands⟩

end PinnedNodes

end Capybara
