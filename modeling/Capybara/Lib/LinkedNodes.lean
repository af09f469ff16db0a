import Mathlib.Data.List.Induction
import Mathlib.Data.List.Nodup

/-!
# Doubly linked nodes

Nodes that name their neighbours, with the names of the first and the last of them kept beside
them. `Linked` reads a sequence of nodes off the links, piece by piece, so that a piece that
nothing is written to can be taken over as it is. `Represents` says that the links hold one
sequence and that every other node is clean. The rules follow a sequence through the links that
are written when a node is put in front or taken out.
-/

namespace LinkedNodes

variable {κ : Type}

/-- The neighbours of a node. -/
structure Links (κ : Type) where
  prev : Option κ
  next : Option κ
  deriving DecidableEq, Repr

/-- A node that is in no sequence. -/
def Links.clean : Links κ := ⟨none, none⟩

/-- The nodes are linked one after the other, between two outer neighbours. -/
def Linked (links : κ → Option (Links κ)) : Option κ → List κ → Option κ → Prop
  | _, [], _ => True
  | before, node :: rest, after =>
    links node = some ⟨before, rest.head?.or after⟩ ∧ Linked links (some node) rest after

/-- Each node leads to the next one, in the direction that is followed, and the last one to
none. -/
def Path (links : κ → Option (Links κ)) (follow : Links κ → Option κ) : List κ → Prop
  | [] => True
  | node :: rest =>
    (∃ link, links node = some link ∧ follow link = rest.head?) ∧ Path links follow rest

variable {links links' : κ → Option (Links κ)} {before after : Option κ} {node : κ}

/-- A piece of a sequence is linked to its neighbours in the other pieces. -/
theorem linked_append {front back : List κ} :
    Linked links before (front ++ back) after ↔
      Linked links before front (back.head?.or after) ∧
        Linked links (front.getLast?.or before) back after := by
  induction front generalizing before with
  | nil => simp only [List.nil_append, Linked, List.getLast?_nil, Option.none_or, true_and]
  | cons node rest inductionHypothesis =>
    have last : ((node :: rest).getLast?).or before = rest.getLast?.or (some node) := by
      rw [List.getLast?_cons]
      cases rest.getLast? <;> rfl
    rw [List.cons_append, Linked, inductionHypothesis, Linked, last, List.head?_append,
      Option.or_assoc, and_assoc]

namespace Linked

variable {nodes : List κ}

/-- A node that is linked has links. -/
theorem live (linked : Linked links before nodes after) (member : node ∈ nodes) :
    ∃ link, links node = some link := by
  induction nodes generalizing before with
  | nil => cases member
  | cons first rest inductionHypothesis =>
    obtain ⟨here, later⟩ := linked
    cases member with
    | head => exact ⟨_, here⟩
    | tail _ member => exact inductionHypothesis later member

/-- Only the links of its own nodes matter to a piece. -/
theorem keep (linked : Linked links before nodes after)
    (same : ∀ node ∈ nodes, links' node = links node) : Linked links' before nodes after := by
  induction nodes generalizing before with
  | nil => trivial
  | cons first rest inductionHypothesis =>
    obtain ⟨here, later⟩ := linked
    refine ⟨(same first List.mem_cons_self).trans here, inductionHypothesis later ?_⟩
    exact fun node member => same node (List.mem_cons_of_mem _ member)

/-- The links lead from the front to the back. -/
theorem forward (linked : Linked links before nodes none) : Path links Links.next nodes := by
  induction nodes generalizing before with
  | nil => trivial
  | cons first rest inductionHypothesis =>
    obtain ⟨here, later⟩ := linked
    exact ⟨⟨_, here, Option.or_none⟩, inductionHypothesis later⟩

/-- The links lead from the back to the front. -/
theorem backward (linked : Linked links none nodes after) :
    Path links Links.prev nodes.reverse := by
  induction nodes using List.reverseRecOn generalizing after with
  | nil => trivial
  | append_singleton front last inductionHypothesis =>
    obtain ⟨before, here, -⟩ := linked_append.mp linked
    rw [List.reverse_concat]
    refine ⟨⟨_, here, ?_⟩, inductionHypothesis before⟩
    rw [List.head?_reverse, Option.or_none]

/-- The first node gets another neighbour in front of it. -/
theorem redirect_before {before' : Option κ} {rest : List κ}
    (linked : Linked links before (node :: rest) after)
    (written : links' node = (links node).map fun link => { link with prev := before' })
    (same : ∀ other ∈ rest, links' other = links other) :
    Linked links' before' (node :: rest) after := by
  obtain ⟨here, later⟩ := linked
  refine ⟨?_, later.keep same⟩
  rw [written, here]
  rfl

/-- The last node gets another neighbour behind it. -/
theorem redirect_after {after' : Option κ} {rest : List κ}
    (linked : Linked links before (rest ++ [node]) after)
    (written : links' node = (links node).map fun link => { link with next := after' })
    (same : ∀ other ∈ rest, links' other = links other) :
    Linked links' before (rest ++ [node]) after' := by
  obtain ⟨front, last, -⟩ := linked_append.mp linked
  refine linked_append.mpr ⟨front.keep same, ?_, trivial⟩
  rw [written, last]
  rfl

end Linked

/-- Only the links of its own nodes matter to a path. -/
theorem Path.keep {follow : Links κ → Option κ} {nodes : List κ} (path : Path links follow nodes)
    (same : ∀ node ∈ nodes, links' node = links node) : Path links' follow nodes := by
  induction nodes with
  | nil => trivial
  | cons first rest inductionHypothesis =>
    obtain ⟨⟨link, here, leads⟩, later⟩ := path
    refine ⟨⟨link, (same first List.mem_cons_self).trans here, leads⟩, inductionHypothesis later ?_⟩
    exact fun node member => same node (List.mem_cons_of_mem _ member)

/-- From the first node to the last the links hold the sequence, and no other node has
neighbours. -/
structure Represents (links : κ → Option (Links κ)) (head tail : Option κ) (nodes : List κ) :
    Prop where
  head_eq : head = nodes.head?
  tail_eq : tail = nodes.getLast?
  linked : Linked links none nodes none
  distinct : nodes.Nodup
  clean : ∀ node ∉ nodes, ∀ link, links node = some link → link = .clean

namespace Represents

variable {head tail : Option κ} {nodes : List κ}

/-- No node has neighbours in the beginning. -/
theorem empty (clean : ∀ node link, links node = some link → link = .clean) :
    Represents links none none [] :=
  ⟨rfl, rfl, trivial, List.nodup_nil, fun node _ => clean node⟩

/-- The same links in the sequence, and no others elsewhere. -/
theorem keep (represents : Represents links head tail nodes)
    (same : ∀ node ∈ nodes, links' node = links node)
    (clean : ∀ node ∉ nodes, ∀ link, links' node = some link → link = .clean) :
    Represents links' head tail nodes :=
  { represents with linked := represents.linked.keep same, clean }

/-- The links of a node in the sequence name the nodes beside it. -/
theorem split {front back : List κ}
    (represents : Represents links head tail (front ++ node :: back)) :
    links node = some ⟨front.getLast?, back.head?⟩ ∧
      Linked links none front (some node) ∧ Linked links (some node) back none := by
  obtain ⟨before, here, after⟩ := linked_append.mp represents.linked
  rw [Option.or_none] at here
  refine ⟨?_, before, after⟩
  rw [here, Option.or_none]

/-- The node behind leads back. -/
theorem leads_back {front back : List κ}
    (represents : Represents links head tail (front ++ node :: back)) {first : κ}
    (next : back.head? = some first) : ∃ further, links first = some ⟨some node, further⟩ := by
  obtain ⟨-, -, after⟩ := represents.split
  cases back with
  | nil => cases next
  | cons other back =>
    cases next
    exact ⟨_, after.1⟩

/-- The node in front leads on. -/
theorem leads_on {front back : List κ}
    (represents : Represents links head tail (front ++ node :: back)) {last : κ}
    (previous : front.getLast? = some last) :
    ∃ earlier, links last = some ⟨earlier, some node⟩ := by
  obtain ⟨-, before, -⟩ := represents.split
  obtain rfl | ⟨front, other, rfl⟩ := List.eq_nil_or_concat' front
  · cases previous
  · rw [List.getLast?_concat] at previous
    cases previous
    obtain ⟨-, here, -⟩ := linked_append.mp before
    exact ⟨_, here⟩

/-- The last node is where the list ends. -/
theorem ends {front : List κ} (represents : Represents links head tail (front ++ [node])) :
    tail = some node := by
  rw [represents.tail_eq, List.getLast?_concat]

/-- A node that is in no sequence is put in front of the first one. -/
theorem push (represents : Represents links head tail nodes) (absent : node ∉ nodes)
    (written : links' node = some ⟨none, head⟩)
    (first : ∀ second, head = some second →
      links' second = (links second).map fun link => { link with prev := some node })
    (same : ∀ other, other ≠ node → head ≠ some other → links' other = links other) :
    Represents links' (some node) (tail.or (some node)) (node :: nodes) := by
  obtain ⟨headIs, tailIs, linked, distinct, clean⟩ := represents
  have others : ∀ other ∈ nodes, other ≠ node := fun other member here => absent (here ▸ member)
  refine ⟨rfl, ?_, ⟨?_, ?_⟩, List.nodup_cons.mpr ⟨absent, distinct⟩, ?_⟩
  · rw [tailIs, List.getLast?_cons]
    cases nodes.getLast? <;> rfl
  · rw [written, headIs, Option.or_none]
  · cases nodes with
    | nil => trivial
    | cons second rest =>
      refine linked.redirect_before (first second headIs) fun other member => ?_
      refine same other (others other (List.mem_cons_of_mem _ member)) fun here => ?_
      cases Option.some.inj (headIs.symm.trans here)
      exact (List.nodup_cons.mp distinct).1 member
  · intro other outside link held
    obtain ⟨different, outside⟩ := not_or.mp (List.mem_cons.not.mp outside)
    refine clean other outside link ((same other different fun here => outside ?_).symm.trans held)
    exact List.mem_of_mem_head? (headIs ▸ here)

/-- A node is taken out: its neighbours become neighbours of one another. -/
theorem unlink {front back : List κ} {head' tail' : Option κ}
    (represents : Represents links head tail (front ++ node :: back))
    (headIs : head' = if front = [] then back.head? else head)
    (tailIs : tail' = if back = [] then front.getLast? else tail)
    (written : links' node = some .clean)
    (previous : ∀ last, front.getLast? = some last → last ≠ node → back.head? ≠ some last →
      links' last = (links last).map fun link => { link with next := back.head? })
    (next : ∀ first, back.head? = some first → first ≠ node → front.getLast? ≠ some first →
      links' first = (links first).map fun link => { link with prev := front.getLast? })
    (same : ∀ other, other ≠ node → front.getLast? ≠ some other → back.head? ≠ some other →
      links' other = links other) :
    Represents links' head' tail' (front ++ back) := by
  obtain ⟨-, before, after⟩ := represents.split
  obtain ⟨headWas, tailWas, -, distinct, clean⟩ := represents
  obtain ⟨distinctFront, distinctLater, apart⟩ := List.nodup_append.mp distinct
  obtain ⟨absentBack, distinctBack⟩ := List.nodup_cons.mp distinctLater
  have absentFront : node ∉ front := fun member => apart node member node List.mem_cons_self rfl
  have disjoint : ∀ other ∈ front, other ∉ back := fun other member member' =>
    apart other member other (List.mem_cons_of_mem _ member') rfl
  have frontKept : ∀ other ∈ front, front.getLast? ≠ some other → links' other = links other := by
    refine fun other member notLast => same other ?_ notLast fun here => ?_
    · rintro rfl
      exact absentFront member
    · exact disjoint other member (List.mem_of_mem_head? here)
  have backKept : ∀ other ∈ back, back.head? ≠ some other → links' other = links other := by
    refine fun other member notFirst => same other ?_ (fun here => ?_) notFirst
    · rintro rfl
      exact absentBack member
    · exact disjoint other (List.mem_of_mem_getLast? here) member
  refine ⟨?_, ?_, linked_append.mpr ⟨?_, ?_⟩, ?_, ?_⟩
  · rw [headIs, headWas]
    cases front with
    | nil => rfl
    | cons first front => rfl
  · rw [tailIs, tailWas]
    obtain rfl | ⟨back, last, rfl⟩ := List.eq_nil_or_concat' back
    · rw [if_pos rfl, List.append_nil]
    · rw [if_neg (List.append_ne_nil_of_right_ne_nil _ (List.cons_ne_nil _ _)), ← List.append_assoc,
        ← List.cons_append, ← List.append_assoc, List.getLast?_concat, List.getLast?_concat]
  · rw [Option.or_none]
    obtain rfl | ⟨front, last, rfl⟩ := List.eq_nil_or_concat' front
    · trivial
    · have inFront : last ∈ front ++ [last] := List.mem_append_right _ List.mem_cons_self
      have written := previous last List.getLast?_concat (fun here => absentFront (here ▸ inFront))
        fun here => disjoint last inFront (List.mem_of_mem_head? here)
      refine before.redirect_after written fun other member => ?_
      refine frontKept other (List.mem_append_left _ member) fun here => ?_
      rw [List.getLast?_concat] at here
      cases here
      exact (List.nodup_append.mp distinctFront).2.2 _ member _ List.mem_cons_self rfl
  · rw [Option.or_none]
    cases back with
    | nil => trivial
    | cons first back =>
      have inBack : first ∈ first :: back := List.mem_cons_self
      have written := next first rfl (fun here => absentBack (here ▸ inBack))
        fun here => disjoint first (List.mem_of_mem_getLast? here) inBack
      refine after.redirect_before written fun other member => ?_
      refine backKept other (List.mem_cons_of_mem _ member) fun here => ?_
      cases here
      exact (List.nodup_cons.mp distinctBack).1 member
  · exact List.nodup_append.mpr ⟨distinctFront, distinctBack, fun other member other' member' =>
      apart other member other' (List.mem_cons_of_mem _ member')⟩
  · intro other outside link held
    by_cases here : other = node
    · cases here
      exact (Option.some.inj (written.symm.trans held)).symm
    obtain ⟨notFront, notBack⟩ := not_or.mp (List.mem_append.not.mp outside)
    refine clean other ?_ link ((same other here ?_ ?_).symm.trans held)
    · rw [List.mem_append, List.mem_cons]
      rintro (member | member | member)
      · exact notFront member
      · exact here member
      · exact notBack member
    · exact fun last => notFront (List.mem_of_mem_getLast? last)
    · exact fun first => notBack (List.mem_of_mem_head? first)

end Represents

end LinkedNodes
