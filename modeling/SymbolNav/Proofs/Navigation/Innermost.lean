import SymbolNav.Proofs.Navigation.Circles

/-!
# The search finds the innermost node

The search for the node at an offset goes down from the root and never turns back. In a finite tree
it stops at a node that covers the offset and none of whose children does. Where spans nest, it
passes through every node that contains the offset, since such a node decides at each step above it
which child to go on with. A node that merely ends at the offset is taken only where no other one
goes on behind it.
-/

namespace SymbolNav

namespace Project

/-- The node is there, and the offset lies in its span or right at its end. -/
def CoversAt (p : Project) (offset : Nat) (id : NodeId) : Prop :=
  ∃ node, p.node? id = some node ∧ node.span.covers offset

/-- A node below the root that covers the offset, and none of whose children does. -/
structure IsInnermostAt (p : Project) (root : NodeId) (offset : Nat) (id : NodeId) : Prop where
  below : p.Below root id
  covers : p.CoversAt offset id
  no_child : ∀ {child : NodeId}, p.IsChild id child → ¬ p.CoversAt offset child

variable {p : Project} {root id leaf : NodeId} {offset moves : Nat}

theorem any_covers_iff : (p.node? id).any (·.span.covers offset) ↔ p.CoversAt offset id :=
  Option.any_eq_true _ _

/-- The search stops where no child covers the offset: a child that contains it also covers it. -/
theorem not_coversAt_of_childAt?_eq_none (h : p.childAt? offset id = none) {child : NodeId}
    (hchild : p.IsChild id child) : ¬ p.CoversAt offset child := by
  obtain ⟨node, hnode, hmem⟩ := hchild
  rw [childAt?, hnode, Option.bind_some, Option.or_eq_none_iff] at h
  intro hcovers
  exact List.find?_eq_none.mp h.2 child hmem (any_covers_iff.mpr hcovers)

theorem isInnermostAt_of_leads (h : Leads (p.childAt? offset) moves root leaf)
    (hroot : p.CoversAt offset root) : p.IsInnermostAt root offset leaf := by
  obtain ⟨hbelow, hcovers⟩ := below_of_leads h (any_covers_iff.mpr hroot)
  exact ⟨hbelow, any_covers_iff.mp hcovers, not_coversAt_of_childAt?_eq_none h.next_eq_none⟩

/-- In a finite tree the search comes to a stop. -/
theorem exists_leads_childAt? (h : FreeOfCircles p.IsChild root) (offset : Nat) :
    ∃ moves leaf, Leads (p.childAt? offset) moves root leaf := by
  apply h.exists_leads NodeId.index_injective
  · intro id child hnext
    exact (isChild_of_childAt? hnext).1
  · intro id hsome
    obtain ⟨node, hnode⟩ := Option.isSome_iff_exists.mp (Option.isSome_of_isSome_bind hsome)
    exact (List.getElem?_eq_some_iff.mp hnode).1

theorem innermostNode_of_leads (h : Leads (p.childAt? offset) moves root leaf)
    (hroot : p.CoversAt offset root) : p.innermostNode root offset = .ok (some leaf) := by
  have hwalk : walk (p.childAt? offset) p.snapshot.nodes.length root = .ok leaf :=
    walk_eq_of_leads (fun _ hsome => Option.isSome_of_isSome_bind hsome) h
  rw [innermostNode, if_pos (any_covers_iff.mpr hroot), hwalk]
  rfl

/-- Where spans nest, the search passes through each node that contains the offset. The induction is
on the way down to that node: at each step above it the search has no other choice. -/
theorem Laminar.below_leaf {node : SyntaxNode} (h : p.Laminar root)
    (hleads : Leads (p.childAt? offset) moves root leaf) (hbelow : p.Below root id)
    (hnode : p.node? id = some node) (hoffset : node.span.contains offset) : p.Below id leaf := by
  induction hbelow using Relation.ReflTransGen.head_induction_on generalizing moves with
  | refl =>
      have hcovers : p.CoversAt offset id := ⟨node, hnode, Span.covers_of_contains hoffset⟩
      exact (isInnermostAt_of_leads hleads hcovers).below
  | head hstep hrest ih =>
      obtain ⟨above, habove, hchild⟩ := hstep
      have hlaminar := h.child habove hchild
      obtain ⟨next, hnext, hcontains⟩ := hlaminar.contains_of_below hrest hnode hoffset
      have hmove := h.childAt?_eq habove hchild hnext hcontains
      cases hleads with
      | stop hstop => exact absurd (hstop.symm.trans hmove) (by simp)
      | move hmove' hleads =>
          obtain rfl := Option.some.inj (hmove.symm.trans hmove')
          exact ih hlaminar hleads

/-- Nothing but itself lies below a node without children. -/
theorem eq_of_below_of_children_eq_nil {node : SyntaxNode} (hnode : p.node? id = some node)
    (hleaf : node.children = []) (h : p.Below id leaf) : leaf = id := by
  rcases (below_iff hnode).mp h with rfl | ⟨child, hchild, -⟩
  · rfl
  · rw [hleaf] at hchild
    exact absurd hchild List.not_mem_nil

/-- In a finite tree the search is answered with a node exactly if the root covers the offset, and
that node is an innermost one. Where spans nest, every node of the tree that contains the offset is
the answer or lies above it; a leaf that contains the offset is the answer itself, whatever else
ends there. -/
theorem innermostNode_finds_innermost (h : FreeOfCircles p.IsChild root) (offset : Nat) :
    ∃ found, p.innermostNode root offset = .ok found ∧
      (found = none ↔ p.node? root = none ∨
        ∃ node, p.node? root = some node ∧ ¬ node.span.covers offset) ∧
      (∀ id, found = some id → p.IsInnermostAt root offset id) ∧
      (p.Laminar root → ∀ id node, p.Below root id → p.node? id = some node →
        node.span.contains offset →
        ∃ leaf, found = some leaf ∧ p.Below id leaf ∧ (node.children = [] → leaf = id)) := by
  by_cases hroot : p.CoversAt offset root
  · obtain ⟨moves, leaf, hleads⟩ := exists_leads_childAt? h offset
    refine ⟨some leaf, innermostNode_of_leads hleads hroot, ?_, ?_, ?_⟩
    · obtain ⟨node, hnode, hcovers⟩ := hroot
      simpa [hnode] using hcovers
    · intro id hid
      cases hid
      exact isInnermostAt_of_leads hleads hroot
    · intro hlaminar id node hbelow hnode hoffset
      have hleaf := hlaminar.below_leaf hleads hbelow hnode hoffset
      exact ⟨leaf, rfl, hleaf, fun hnil => eq_of_below_of_children_eq_nil hnode hnil hleaf⟩
  · refine ⟨none, ?_, ?_, ?_, ?_⟩
    · rw [innermostNode, if_neg (mt any_covers_iff.mp hroot)]
    · refine iff_of_true rfl ?_
      cases hnode : p.node? root with
      | none => exact Or.inl rfl
      | some node => exact Or.inr ⟨node, rfl, fun hcovers => hroot ⟨node, hnode, hcovers⟩⟩
    · intro id hid
      cases hid
    · intro hlaminar id node hbelow hnode hoffset
      obtain ⟨top, htop, hcontains⟩ := hlaminar.contains_of_below hbelow hnode hoffset
      exact absurd ⟨top, htop, Span.covers_of_contains hcontains⟩ hroot

end Project

namespace NeighbourSample

/-! Two names that meet at offset 3, each inside a node of its own. -/

def snapshot : Snapshot where
  nodes := [⟨.other, ⟨0, 6⟩, none, [⟨1⟩, ⟨3⟩]⟩, ⟨.other, ⟨0, 3⟩, some ⟨0⟩, [⟨2⟩]⟩,
    ⟨.identifier "ab", ⟨1, 3⟩, some ⟨1⟩, []⟩, ⟨.other, ⟨3, 6⟩, some ⟨0⟩, [⟨4⟩]⟩,
    ⟨.identifier "cd", ⟨3, 5⟩, some ⟨3⟩, []⟩]

def project : Project :=
  .ofSnapshot {} snapshot

/-- Children come after a node and lie inside it, apart from one another. -/
theorem children_in_order : ∀ i < 5, ∀ node ∈ snapshot.nodes[i]?, ∀ first ∈ node.children,
    i < first.index ∧ ∀ inner ∈ snapshot.nodes[first.index]?, node.span.encloses inner.span ∧
      ∀ second ∈ node.children, ∀ other ∈ snapshot.nodes[second.index]?,
        first = second ∨ inner.span.stop ≤ other.span.start ∨ other.span.stop ≤ inner.span.start := by
  decide

theorem free (root : NodeId) : FreeOfCircles project.IsChild root := by
  refine .of_rank (fun id => 5 - id.index) ?_
  intro id child hchild
  obtain ⟨node, hnode, hmem⟩ := hchild
  have hid : id.index < 5 := (List.getElem?_eq_some_iff.mp hnode).1
  have hlt := (children_in_order id.index hid node hnode child hmem).1
  omega

theorem laminar : project.Laminar ⟨0⟩ where
  inside := by
    intro id child node childNode _ hnode hchild hchildNode
    have hid : id.index < 5 := (List.getElem?_eq_some_iff.mp hnode).1
    exact ((children_in_order id.index hid node hnode child hchild).2 childNode hchildNode).1
  apart := by
    intro id first second node inner other offset _ hnode hfirst hsecond hinner hother hin hin'
    have hid : id.index < 5 := (List.getElem?_eq_some_iff.mp hnode).1
    have hapart := ((children_in_order id.index hid node hnode first hfirst).2 inner hinner).2
      second hsecond other hother
    rw [Span.contains_iff] at hin hin'
    rcases hapart with heq | hapart
    · exact heq
    · omega

end NeighbourSample

/-- At the offset where both names meet, the second one is found. -/
theorem Project.innermostNode_finds_second_neighbour :
    FreeOfCircles NeighbourSample.project.IsChild ⟨0⟩ ∧ NeighbourSample.project.Laminar ⟨0⟩ ∧
      NeighbourSample.project.innermostNode ⟨0⟩ 3 = .ok (some ⟨4⟩) ∧
      NeighbourSample.project.IsInnermostAt ⟨0⟩ 3 ⟨4⟩ := by
  obtain ⟨found, hfound, -, hinnermost, hlaminar⟩ :=
    Project.innermostNode_finds_innermost (NeighbourSample.free ⟨0⟩) 3
  have hbelow : NeighbourSample.project.Below ⟨0⟩ ⟨4⟩ :=
    .head ⟨_, rfl, List.mem_cons_of_mem _ List.mem_cons_self⟩ (.single ⟨_, rfl, List.mem_cons_self⟩)
  obtain ⟨leaf, rfl, -, hleaf⟩ :=
    hlaminar NeighbourSample.laminar ⟨4⟩ _ hbelow rfl (by decide)
  obtain rfl := hleaf rfl
  exact ⟨NeighbourSample.free ⟨0⟩, NeighbourSample.laminar, hfound, hinnermost ⟨4⟩ rfl⟩

end SymbolNav
