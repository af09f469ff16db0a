import Capybara.Runtime.Machine
import Mathlib.Algebra.Order.Group.Multiset
import Mathlib.Tactic.Abel

/-!
# The pairing heap

`collections/intrusive/pairing_heap.rs`. A node is linked to its first child, its siblings and
its parent. The nodes are a tree here, and a node is found by search where the source follows
its pointers.

What a heap holds is a multiset. Insertion and removal add and remove the node, and its root is
the least node, for the order of a key.
-/

namespace Capybara

universe u v

namespace PairingHeap

variable {α : Type u}

/-- The nodes that are reached by `first_child` and `next`. -/
inductive Nodes (α : Type u) where
  | none
  | node (data : α) (firstChild next : Nodes α)
  deriving DecidableEq, Repr

/-- A node without a parent, with the nodes under it. -/
structure Root (α : Type u) where
  data : α
  firstChild : Nodes α
  deriving DecidableEq, Repr

/-- `add_child`. -/
def addChild (parent child : Root α) : Root α :=
  ⟨parent.data, .node child.data child.firstChild parent.firstChild⟩

/-- The children of a removed node, if there are any, are added to its parent. -/
def adopt (parent : Root α) : Option (Root α) → Root α
  | none => parent
  | some children => addChild parent children

/-- A first child and its siblings, each without its parent. -/
def Nodes.siblings : Nodes α → List (Root α)
  | .none => []
  | .node data firstChild next => ⟨data, firstChild⟩ :: next.siblings

section Order

variable {κ : Type v} [LinearOrder κ] (key : α → κ)

/-- `meld`. -/
def meld (left right : Root α) : Root α :=
  if key left.data < key right.data then addChild left right else addChild right left

/-- `maybe_meld`. -/
def maybeMeld : Option (Root α) → Root α → Root α
  | some left, right => meld key left right
  | none, right => right

/-- The loop of `merge_children`, over the children from the last one on. -/
def mergePairs : Option (Root α) → List (Root α) → Option (Root α)
  | current, [] => current
  | current, [node] => some (maybeMeld key current node)
  | current, node :: prev :: rest =>
    mergePairs (some (maybeMeld key current (meld key prev node))) rest

/-- `merge_children`, nothing if there are none. -/
def mergeChildren (firstChild : Nodes α) : Option (Root α) :=
  mergePairs key none firstChild.siblings.reverse

/-- A node is unlinked. The result is what is left, and the nodes that were under it, which go to
the parent of all these. -/
def unlink [DecidableEq α] (target : α) : Nodes α → Option (Nodes α × Option (Root α))
  | .none => none
  | .node data firstChild next =>
    if data = target then some (next, mergeChildren key firstChild)
    else match unlink target firstChild with
      | some (left, children) =>
        let parent := adopt ⟨data, left⟩ children
        some (.node parent.data parent.firstChild next, none)
      | none =>
        (unlink target next).map fun (left, children) => (.node data firstChild left, children)

end Order

end PairingHeap

open PairingHeap

/-- `PairingHeap`. -/
structure PairingHeap (α : Type u) where
  root : Option (Root α)
  deriving DecidableEq, Repr

namespace PairingHeap

variable {α : Type u} {κ : Type v} [LinearOrder κ] (key : α → κ)

/-- `new`. -/
def new : PairingHeap α := ⟨none⟩

/-- `insert`. -/
def insert (heap : PairingHeap α) (node : α) : PairingHeap α :=
  ⟨some (maybeMeld key heap.root ⟨node, .none⟩)⟩

/-- `peek_min`. -/
def peekMin (heap : PairingHeap α) : Option α := heap.root.map Root.data

/-- `remove`. -/
def remove [DecidableEq α] (heap : PairingHeap α) (node : α) : Checked (PairingHeap α) :=
  match heap.root with
  | none => .error .notInHeap
  | some root =>
    if root.data = node then .ok ⟨mergeChildren key root.firstChild⟩
    else match unlink key node root.firstChild with
      | some (left, children) => .ok ⟨some (adopt ⟨root.data, left⟩ children)⟩
      | none => .error .notInHeap

/-! ## What a heap holds -/

/-- The nodes as a multiset. -/
def Nodes.elements : Nodes α → Multiset α
  | .none => 0
  | .node data firstChild next => data ::ₘ (firstChild.elements + next.elements)

/-- The elements of a tree: its root and those below it. -/
def Root.elements (root : Root α) : Multiset α := root.data ::ₘ root.firstChild.elements

/-- What is under a root, if there is one. -/
def held : Option (Root α) → Multiset α
  | none => 0
  | some root => root.elements

/-- The elements of a heap, as often as they are in it. -/
def elements (heap : PairingHeap α) : Multiset α := held heap.root

/-- The number of nodes. -/
def size (heap : PairingHeap α) : Nat := heap.elements.card

/-- A child brings its elements along. -/
theorem elements_addChild (parent child : Root α) :
    (addChild parent child).elements = parent.elements + child.elements := by
  simp only [addChild, Root.elements, Nodes.elements, ← Multiset.singleton_add]
  abel

/-- So do the children that are adopted at once. -/
theorem elements_adopt (parent : Root α) (children : Option (Root α)) :
    (adopt parent children).elements = parent.elements + held children := by
  cases children with
  | none => rw [adopt, held, Multiset.add_zero]
  | some children => exact elements_addChild parent children

/-- Melding two trees loses nothing and doubles nothing, whichever root comes out on top. -/
theorem elements_meld (left right : Root α) :
    (meld key left right).elements = left.elements + right.elements := by
  rw [meld]
  split
  · exact elements_addChild left right
  · rw [elements_addChild, Multiset.add_comm]

/-- The same where there may be no tree yet. -/
theorem elements_maybeMeld (current : Option (Root α)) (right : Root α) :
    (maybeMeld key current right).elements = held current + right.elements := by
  cases current with
  | none => exact (Multiset.zero_add _).symm
  | some left => exact elements_meld key left right

/-- Nothing is lost when children are merged. -/
theorem held_mergePairs (current : Option (Root α)) (nodes : List (Root α)) :
    held (mergePairs key current nodes) =
      held current + (nodes.map Root.elements).sum := by
  induction current, nodes using mergePairs.induct key with
  | case1 current => exact (Multiset.add_zero _).symm
  | case2 current node =>
    rw [mergePairs, held, elements_maybeMeld, List.map_singleton, List.sum_singleton]
  | case3 current node prev rest inductionHypothesis =>
    rw [mergePairs, inductionHypothesis, held, elements_maybeMeld, elements_meld, List.map_cons,
      List.map_cons, List.sum_cons, List.sum_cons]
    abel

/-- The siblings, taken as trees of their own, have all the elements of the list. -/
theorem sum_siblings (nodes : Nodes α) :
    (nodes.siblings.map Root.elements).sum = nodes.elements := by
  induction nodes with
  | none => rfl
  | node data firstChild next _ inductionHypothesis =>
    rw [Nodes.siblings, List.map_cons, List.sum_cons, inductionHypothesis, Root.elements,
      Nodes.elements, Multiset.cons_add]

/-- Merging the children of a root keeps their elements. -/
theorem held_mergeChildren (firstChild : Nodes α) :
    held (mergeChildren key firstChild) = firstChild.elements := by
  rw [mergeChildren, held_mergePairs, held, Multiset.zero_add, List.map_reverse, List.sum_reverse,
    sum_siblings]

/-- A node that is unlinked is gone, and no other one. -/
theorem elements_unlink [DecidableEq α] {target : α} {nodes left : Nodes α}
    {children : Option (Root α)} (unlinked : unlink key target nodes = some (left, children)) :
    nodes.elements = target ::ₘ (left.elements + held children) := by
  induction nodes generalizing left children with
  | none => cases unlinked
  | node data firstChild next under behind =>
    rw [unlink] at unlinked
    split at unlinked
    · rename_i same
      subst same
      cases unlinked
      rw [Nodes.elements, held_mergeChildren, Multiset.add_comm]
    · split at unlinked
      · rename_i _ left' children' found
        cases unlinked
        have parent := elements_adopt ⟨data, left'⟩ children'
        rw [Root.elements, Root.elements] at parent
        rw [Nodes.elements, Nodes.elements, held, Multiset.add_zero, ← Multiset.cons_add,
          ← Multiset.cons_add, parent, under found]
        simp only [← Multiset.singleton_add]
        abel
      · obtain ⟨⟨left', children'⟩, found, same⟩ := Option.map_eq_some_iff.mp unlinked
        cases same
        rw [Nodes.elements, Nodes.elements, behind found]
        simp only [← Multiset.singleton_add]
        abel

/-- A node that is there is found. -/
theorem unlink_found [DecidableEq α] {target : α} {nodes : Nodes α}
    (member : target ∈ nodes.elements) :
    ∃ left children, unlink key target nodes = some (left, children) := by
  induction nodes with
  | none => exact absurd member (Multiset.notMem_zero _)
  | node data firstChild next under behind =>
    rw [unlink]
    by_cases same : data = target
    · exact ⟨_, _, if_pos same⟩
    rw [if_neg same]
    cases found : unlink key target firstChild with
    | some result => exact ⟨_, _, rfl⟩
    | none =>
      rw [Nodes.elements, Multiset.mem_cons, Multiset.mem_add] at member
      obtain rfl | inside | after := member
      · exact absurd rfl same
      · obtain ⟨_, _, found'⟩ := under inside
        cases found.symm.trans found'
      · obtain ⟨left, children, found'⟩ := behind after
        exact ⟨_, _, by rw [found']; rfl⟩

/-! ## The least node -/

/-- No node is less than the one above it. -/
def Nodes.Ordered : Nodes α → Prop
  | .none => True
  | .node data firstChild next =>
    (∀ other ∈ firstChild.elements, key data ≤ key other) ∧ firstChild.Ordered ∧ next.Ordered

/-- No element of a tree is less than its root, and so it is in every tree below. -/
structure Root.Ordered (root : Root α) : Prop where
  least : ∀ other ∈ root.firstChild.elements, key root.data ≤ key other
  under : root.firstChild.Ordered key

/-- The heap is empty, or its tree is ordered. -/
def Ordered (heap : PairingHeap α) : Prop := ∀ root ∈ heap.root, root.Ordered key

variable {key}

/-- An ordered tree, seen as what a heap may hold. -/
theorem Root.Ordered.alone {root : Root α} (ordered : root.Ordered key) :
    ∀ other ∈ Option.some root, other.Ordered key := by
  intro other same
  obtain rfl := Option.mem_some_iff.mp same
  exact ordered

/-- A child may go below a root that is not greater than the child. -/
theorem Root.Ordered.addChild {parent child : Root α} (above : parent.Ordered key)
    (below : child.Ordered key) (le : key parent.data ≤ key child.data) :
    (addChild parent child).Ordered key := by
  refine ⟨?_, below.least, below.under, above.under⟩
  intro other member
  rw [PairingHeap.addChild, Nodes.elements, Multiset.mem_cons, Multiset.mem_add] at member
  obtain rfl | inside | inside := member
  · exact le
  · exact le.trans (below.least other inside)
  · exact above.least other inside

/-- So may the children that are adopted at once, if there are any. -/
theorem Root.Ordered.adopt {parent : Root α} {children : Option (Root α)}
    (above : parent.Ordered key)
    (below : ∀ child ∈ children, child.Ordered key ∧ key parent.data ≤ key child.data) :
    (adopt parent children).Ordered key := by
  cases children with
  | none => exact above
  | some child =>
    obtain ⟨ordered, le⟩ := below child rfl
    exact above.addChild ordered le

/-- Melding puts the greater root below the other one, so that the tree stays ordered. -/
theorem Root.Ordered.meld {left right : Root α} (ordered : left.Ordered key)
    (ordered' : right.Ordered key) : (meld key left right).Ordered key := by
  rw [PairingHeap.meld]
  split
  · rename_i less
    exact ordered.addChild ordered' less.le
  · rename_i notLess
    exact ordered'.addChild ordered (not_lt.mp notLess)

/-- The same where there may be no tree yet. -/
theorem Root.Ordered.maybeMeld {current : Option (Root α)} {right : Root α}
    (ordered : ∀ left ∈ current, left.Ordered key) (ordered' : right.Ordered key) :
    (maybeMeld key current right).Ordered key := by
  cases current with
  | none => exact ordered'
  | some left => exact (ordered left rfl).meld ordered'

/-- Merging trees in pairs yields an ordered tree, by induction along the recursion of the
merge: two trees are melded, and the result with what the others yield. -/
theorem ordered_mergePairs {current : Option (Root α)} {nodes : List (Root α)}
    (ordered : ∀ root ∈ current, root.Ordered key) (each : ∀ node ∈ nodes, node.Ordered key) :
    ∀ root ∈ mergePairs key current nodes, root.Ordered key := by
  induction current, nodes using mergePairs.induct key with
  | case1 current => exact ordered
  | case2 current node =>
    exact Root.Ordered.alone (.maybeMeld ordered (each node List.mem_cons_self))
  | case3 current node prev rest inductionHypothesis =>
    obtain ⟨last, before⟩ := List.forall_mem_cons.mp each
    obtain ⟨previous, remaining⟩ := List.forall_mem_cons.mp before
    exact inductionHypothesis (Root.Ordered.alone (.maybeMeld ordered (previous.meld last))) remaining

/-- The siblings, taken as trees of their own, are ordered. -/
theorem ordered_siblings {nodes : Nodes α} (ordered : nodes.Ordered key) :
    ∀ node ∈ nodes.siblings, node.Ordered key := by
  induction nodes with
  | none => exact fun _ member => absurd member List.not_mem_nil
  | node data firstChild next _ inductionHypothesis =>
    obtain ⟨least, under, behind⟩ := ordered
    rw [Nodes.siblings, List.forall_mem_cons]
    exact ⟨⟨least, under⟩, inductionHypothesis behind⟩

/-- Merging the children of a root yields an ordered tree. -/
theorem ordered_mergeChildren {firstChild : Nodes α} (ordered : firstChild.Ordered key) :
    ∀ root ∈ mergeChildren key firstChild, root.Ordered key := by
  refine ordered_mergePairs (fun _ none => nomatch none) fun node member => ?_
  exact ordered_siblings ordered node (List.mem_reverse.mp member)

/-- The nodes under one that is unlinked are not less than the one above it. -/
theorem Root.Ordered.replace [DecidableEq α] {target data : α} {firstChild left : Nodes α}
    {children : Option (Root α)} (above : Root.Ordered key ⟨data, firstChild⟩)
    (found : unlink key target firstChild = some (left, children)) (kept : left.Ordered key)
    (merged : ∀ child ∈ children, child.Ordered key) :
    (PairingHeap.adopt ⟨data, left⟩ children).Ordered key := by
  have least := above.least
  rw [elements_unlink key found] at least
  have remaining : ∀ other ∈ left.elements, key data ≤ key other := fun other member =>
    least other (Multiset.mem_cons_of_mem (Multiset.mem_add.mpr (.inl member)))
  refine .adopt ⟨remaining, kept⟩ fun child some => ⟨merged child some, ?_⟩
  obtain rfl := Option.mem_def.mp some
  exact least child.data (Multiset.mem_cons_of_mem
    (Multiset.mem_add.mpr (.inr (Multiset.mem_cons_self _ _))))

/-- What is left of an ordered heap is ordered. -/
theorem ordered_unlink [DecidableEq α] {target : α} {nodes left : Nodes α}
    {children : Option (Root α)} (ordered : nodes.Ordered key)
    (unlinked : unlink key target nodes = some (left, children)) :
    left.Ordered key ∧ ∀ child ∈ children, child.Ordered key := by
  induction nodes generalizing left children with
  | none => cases unlinked
  | node data firstChild next under behind =>
    obtain ⟨least, inside, after⟩ := ordered
    rw [unlink] at unlinked
    split at unlinked
    · cases unlinked
      exact ⟨after, ordered_mergeChildren inside⟩
    · split at unlinked
      · rename_i _ left' children' found
        cases unlinked
        obtain ⟨kept, merged⟩ := under inside found
        have parent := Root.Ordered.replace ⟨least, inside⟩ found kept merged
        exact ⟨⟨parent.least, parent.under, after⟩, fun _ none => nomatch none⟩
      · obtain ⟨⟨left', children'⟩, found, same⟩ := Option.map_eq_some_iff.mp unlinked
        cases same
        obtain ⟨kept, merged⟩ := behind after found
        exact ⟨⟨least, inside, kept⟩, merged⟩

/-! ## The operations -/

variable {heap : PairingHeap α}

/-- The empty heap is ordered. -/
theorem ordered_new : (new : PairingHeap α).Ordered key := fun _ none => nomatch none

/-- A node is inserted. -/
theorem elements_insert (heap : PairingHeap α) (node : α) :
    (heap.insert key node).elements = node ::ₘ heap.elements := by
  rw [insert, elements, held, elements_maybeMeld, Root.elements, Nodes.elements, Multiset.add_cons,
    Multiset.add_zero]
  rfl

/-- An insertion melds a tree of one node, which is ordered. -/
theorem Ordered.insert (ordered : heap.Ordered key) (node : α) :
    (heap.insert key node).Ordered key :=
  Root.Ordered.alone (.maybeMeld ordered
    ⟨fun _ none => absurd none (Multiset.notMem_zero _), trivial⟩)

/-- There is no least element exactly in an empty heap. -/
theorem peekMin_eq_none : heap.peekMin = none ↔ heap.elements = 0 := by
  obtain ⟨_ | root⟩ := heap
  · exact ⟨fun _ => rfl, fun _ => rfl⟩
  · exact ⟨fun none => (nomatch none), fun empty => absurd empty (Multiset.cons_ne_zero)⟩

/-- The root is a node, and none is less. -/
theorem Ordered.peekMin (ordered : heap.Ordered key) {first : α}
    (peeked : heap.peekMin = some first) :
    first ∈ heap.elements ∧ ∀ other ∈ heap.elements, key first ≤ key other := by
  obtain ⟨_ | root⟩ := heap
  · cases peeked
  · cases peeked
    refine ⟨Multiset.mem_cons_self _ _, fun other member => ?_⟩
    obtain rfl | under := Multiset.mem_cons.mp member
    · exact le_refl _
    · exact (ordered root rfl).least other under

/-- A node of the heap is removed. -/
theorem Ordered.remove [DecidableEq α] (ordered : heap.Ordered key) {node : α}
    (member : node ∈ heap.elements) :
    ∃ heap', heap.remove key node = .ok heap' ∧ heap.elements = node ::ₘ heap'.elements ∧
      heap'.Ordered key := by
  obtain ⟨_ | root⟩ := heap
  · exact absurd member (Multiset.notMem_zero _)
  have under := ordered root rfl
  rw [PairingHeap.remove]
  dsimp only
  by_cases same : root.data = node
  · subst same
    refine ⟨_, if_pos rfl, ?_, ordered_mergeChildren under.under⟩
    rw [elements, elements, held_mergeChildren]
    rfl
  · have inside : node ∈ root.firstChild.elements :=
      (Multiset.mem_cons.mp member).resolve_left (Ne.symm same)
    obtain ⟨left, children, found⟩ := unlink_found key inside
    obtain ⟨kept, merged⟩ := ordered_unlink under.under found
    refine ⟨⟨some (adopt ⟨root.data, left⟩ children)⟩, by rw [if_neg same, found], ?_, ?_⟩
    · rw [elements, held, elements, held, elements_adopt, Root.elements, Root.elements,
        elements_unlink key found]
      simp only [← Multiset.singleton_add]
      abel
    · exact Root.Ordered.alone (under.replace found kept merged)

end PairingHeap

end Capybara
