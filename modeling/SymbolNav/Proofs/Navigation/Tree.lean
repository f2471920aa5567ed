import Mathlib.Logic.Relation
import SymbolNav.Navigation.Locate
import SymbolNav.Proofs.Navigation.Answers
import SymbolNav.Proofs.Navigation.Walks

/-!
# Trees of syntax nodes

The links between nodes come from a snapshot and need not form a tree. `Below` is what the search
for nodes can reach through children, whatever the links are. `Laminar` says that the spans below a
node nest as those of a parsed text do; then an offset inside a node decides at every step above it
which child the search goes on with, and the search from the root ends at the leaf that contains the
offset. The way back up follows the links to parents, which nothing ties to those to children.
-/

namespace SymbolNav

theorem NodeId.index_injective : Function.Injective NodeId.index := by
  rintro ⟨i⟩ ⟨j⟩ hij
  exact congrArg NodeId.mk hij

theorem TagId.index_injective : Function.Injective TagId.index := by
  rintro ⟨i⟩ ⟨j⟩ hij
  exact congrArg TagId.mk hij

namespace Project

/-- The first node lists the second one as a child. -/
def IsChild (p : Project) (parent child : NodeId) : Prop :=
  ∃ node, p.node? parent = some node ∧ child ∈ node.children

/-- The second node is the first one or can be reached from it through children. -/
def Below (p : Project) : NodeId → NodeId → Prop :=
  Relation.ReflTransGen p.IsChild

/-- Children lie inside their parents and share no byte with one another. -/
structure Laminar (p : Project) (root : NodeId) : Prop where
  inside : ∀ {id child : NodeId} {node childNode : SyntaxNode}, p.Below root id →
    p.node? id = some node → child ∈ node.children → p.node? child = some childNode →
    node.span.encloses childNode.span
  apart : ∀ {id first second : NodeId} {node firstNode secondNode : SyntaxNode} {offset : Nat},
    p.Below root id → p.node? id = some node → first ∈ node.children → second ∈ node.children →
    p.node? first = some firstNode → p.node? second = some secondNode →
    firstNode.span.contains offset → secondNode.span.contains offset → first = second

def parent? (p : Project) (id : NodeId) : Option NodeId :=
  (p.node? id).bind (·.parent)

/-- The second node stands on the chain of parents that starts with the first one. -/
def Above (p : Project) : NodeId → NodeId → Prop :=
  Relation.ReflTransGen fun child parent => p.parent? child = some parent

/-- The chain of parents of a node comes to an end. A request for a node whose parents lead round in
a circle is never answered. -/
def ParentsEnd (p : Project) (id : NodeId) : Prop :=
  ∃ length top, Leads p.parent? length id top

/-- No node on the chain of parents is a style block, whether the chain comes to an end or not. -/
def OutsideStyle (p : Project) (id : NodeId) : Prop :=
  ∀ {above : NodeId} {node : SyntaxNode}, p.Above id above → p.node? above = some node →
    node.isStyleBlock = false

variable {p : Project} {root id : NodeId}

/-- What lies below a node is the node itself or lies below one of its children. -/
theorem below_iff {node : SyntaxNode} (hroot : p.node? root = some node) :
    p.Below root id ↔ id = root ∨ ∃ child ∈ node.children, p.Below child id := by
  constructor
  · intro h
    rcases Relation.ReflTransGen.cases_head h with rfl | ⟨child, ⟨found, hfound, hchild⟩, hbelow⟩
    · exact Or.inl rfl
    · rw [hroot] at hfound
      cases hfound
      exact Or.inr ⟨child, hchild, hbelow⟩
  · rintro (rfl | ⟨child, hchild, hbelow⟩)
    · exact .refl
    · exact .head ⟨node, hroot, hchild⟩ hbelow

/-- Nothing lies below a handle that names no node. -/
theorem below_of_none (hroot : p.node? root = none) (h : p.Below root id) : id = root := by
  rcases Relation.ReflTransGen.cases_head h with rfl | ⟨child, ⟨found, hfound, -⟩, -⟩
  · rfl
  · rw [hroot] at hfound
    cases hfound

/-- A walk from node to node that ends is answered, since the bound on its moves is the number of
nodes. -/
theorem walk_eq_of_leads {next : NodeId → Option NodeId} {moves : Nat} {start stop : NodeId}
    (hnext : ∀ id, (next id).isSome → (p.node? id).isSome) (h : Leads next moves start stop) :
    walk next p.snapshot.nodes.length start = .ok stop := by
  refine h.walk_eq_of_places NodeId.index_injective fun id hsome => ?_
  obtain ⟨node, hnode⟩ := Option.isSome_iff_exists.mp (hnext id hsome)
  exact (List.getElem?_eq_some_iff.mp hnode).1

/-- The search goes on with a child that covers the offset. -/
theorem isChild_of_childAt? {offset : Nat} {child : NodeId}
    (h : p.childAt? offset id = some child) :
    p.IsChild id child ∧ (p.node? child).any (·.span.covers offset) := by
  obtain ⟨node, hnode, hfound⟩ := Option.bind_eq_some_iff.mp h
  rcases Option.or_eq_some_iff.mp hfound with hcontains | ⟨-, hcovers⟩
  · have hany := List.find?_some hcontains
    obtain ⟨childNode, hchild, hspan⟩ := (Option.any_eq_true _ _).mp hany
    refine ⟨⟨node, hnode, List.mem_of_find?_eq_some hcontains⟩, ?_⟩
    rw [hchild]
    exact Span.covers_of_contains hspan
  · have hany := List.find?_some hcovers
    exact ⟨⟨node, hnode, List.mem_of_find?_eq_some hcovers⟩, hany⟩

/-- Where the search leads to lies below where it starts, and covers the offset if the start does. -/
theorem below_of_leads {offset moves : Nat} (h : Leads (p.childAt? offset) moves root id)
    (hroot : (p.node? root).any (·.span.covers offset)) :
    p.Below root id ∧ (p.node? id).any (·.span.covers offset) := by
  induction h with
  | stop => exact ⟨.refl, hroot⟩
  | move hmove _ ih =>
      obtain ⟨hchild, hcovers⟩ := isChild_of_childAt? hmove
      obtain ⟨hbelow, hfound⟩ := ih hcovers
      exact ⟨.head hchild hbelow, hfound⟩

/-- What the search finds lies below the root and covers the offset, whatever the spans are. -/
theorem below_of_innermostNode {offset : Nat}
    (h : p.innermostNode root offset = .ok (some id)) :
    p.Below root id ∧ (p.node? id).any (·.span.covers offset) := by
  unfold innermostNode at h
  split at h
  · rename_i hroot
    cases hwalk : walk (p.childAt? offset) p.snapshot.nodes.length root with
    | error e =>
        rw [hwalk] at h
        cases h
    | ok found =>
        rw [hwalk] at h
        cases h
        obtain ⟨moves, hleads⟩ := Leads.exists_of_walk hwalk
        exact below_of_leads hleads hroot
  · cases h

namespace Laminar

theorem child {node : SyntaxNode} {child : NodeId} (h : p.Laminar root)
    (hroot : p.node? root = some node) (hchild : child ∈ node.children) : p.Laminar child where
  inside hbelow := h.inside (.head ⟨node, hroot, hchild⟩ hbelow)
  apart hbelow := h.apart (.head ⟨node, hroot, hchild⟩ hbelow)

/-- An offset inside a node lies inside every node above it. -/
theorem contains_of_below {offset : Nat} {node : SyntaxNode} (h : p.Laminar root)
    (hbelow : p.Below root id) (hnode : p.node? id = some node)
    (hoffset : node.span.contains offset) :
    ∃ rootNode, p.node? root = some rootNode ∧ rootNode.span.contains offset := by
  induction hbelow using Relation.ReflTransGen.head_induction_on with
  | refl => exact ⟨node, hnode, hoffset⟩
  | head hstep _ ih =>
      obtain ⟨above, habove, hchild⟩ := hstep
      obtain ⟨next, hnext, hcontains⟩ := ih (h.child habove hchild)
      have hinside := h.inside .refl habove hchild hnext
      rw [Span.contains_iff] at *
      rw [Span.encloses_iff] at hinside
      exact ⟨above, habove, Span.contains_iff.mpr (by omega)⟩

/-- The search goes on with the child that contains the offset, since no other one does. -/
theorem childAt?_eq {offset : Nat} {node childNode : SyntaxNode} {child : NodeId}
    (h : p.Laminar root) (hroot : p.node? root = some node) (hchild : child ∈ node.children)
    (hnode : p.node? child = some childNode) (hoffset : childNode.span.contains offset) :
    p.childAt? offset root = some child := by
  have hholds : (p.node? child).any (·.span.contains offset) := by simpa [hnode] using hoffset
  cases hfound : node.children.find? fun c => (p.node? c).any (·.span.contains offset) with
  | none => exact absurd hholds (List.find?_eq_none.mp hfound child hchild)
  | some found =>
      have hany := List.find?_some hfound
      obtain ⟨foundNode, hfoundNode, hcontains⟩ := (Option.any_eq_true _ _).mp hany
      obtain rfl : found = child :=
        h.apart .refl hroot (List.mem_of_find?_eq_some hfound) hchild hfoundNode hnode hcontains
          hoffset
      rw [childAt?, hroot, Option.bind_some, hfound]
      rfl

theorem exists_leads {offset : Nat} {node : SyntaxNode} (h : p.Laminar root)
    (hbelow : p.Below root id) (hnode : p.node? id = some node) (hleaf : node.children = [])
    (hoffset : node.span.contains offset) : ∃ moves, Leads (p.childAt? offset) moves root id := by
  induction hbelow using Relation.ReflTransGen.head_induction_on with
  | refl => exact ⟨0, .stop (by simp [childAt?, hnode, hleaf])⟩
  | head hstep hrest ih =>
      obtain ⟨above, habove, hchild⟩ := hstep
      have hlaminar := h.child habove hchild
      obtain ⟨next, hnext, hcontains⟩ := hlaminar.contains_of_below hrest hnode hoffset
      obtain ⟨moves, hmoves⟩ := ih hlaminar
      exact ⟨moves + 1, .move (h.childAt?_eq habove hchild hnext hcontains) hmoves⟩

/-- The search from the root finds the leaf that contains the offset. -/
theorem innermostNode_eq {offset : Nat} {node : SyntaxNode} (h : p.Laminar root)
    (hbelow : p.Below root id) (hnode : p.node? id = some node) (hleaf : node.children = [])
    (hoffset : node.span.contains offset) : p.innermostNode root offset = .ok (some id) := by
  obtain ⟨rootNode, hroot, hcontains⟩ := h.contains_of_below hbelow hnode hoffset
  obtain ⟨moves, hmoves⟩ := h.exists_leads hbelow hnode hleaf hoffset
  have hwalk : walk (p.childAt? offset) p.snapshot.nodes.length root = .ok id :=
    walk_eq_of_leads (fun _ hsome => Option.isSome_of_isSome_bind hsome) hmoves
  have hcovers : (p.node? root).any (·.span.covers offset) := by
    rw [hroot]
    exact Span.covers_of_contains hcontains
  rw [innermostNode, if_pos hcovers, hwalk]
  rfl

end Laminar

theorem outsideStyle_of_forall (h : ∀ node ∈ p.snapshot.nodes, node.isStyleBlock = false) :
    p.OutsideStyle id :=
  fun _ hnode => h _ (List.mem_of_getElem? hnode)

namespace OutsideStyle

theorem parentUnlessStyle?_eq (h : p.OutsideStyle id) : p.parentUnlessStyle? id = p.parent? id := by
  unfold parentUnlessStyle? parent?
  cases hnode : p.node? id with
  | none => rfl
  | some node => simp [h .refl hnode]

/-- The way up to a style block leads to the end of the chain, outside every style block. -/
theorem leads_parentUnlessStyle? {length : Nat} {top : NodeId} (h : p.OutsideStyle id)
    (hleads : Leads p.parent? length id top) :
    Leads p.parentUnlessStyle? length id top ∧ p.OutsideStyle top := by
  induction hleads with
  | stop hstop => exact ⟨.stop (h.parentUnlessStyle?_eq.trans hstop), h⟩
  | move hmove _ ih =>
      obtain ⟨hleads, htop⟩ := ih fun habove => h (.head hmove habove)
      exact ⟨.move (h.parentUnlessStyle?_eq.trans hmove) hleads, htop⟩

theorem isInStyleBlock_eq (h : p.OutsideStyle id) (hends : p.ParentsEnd id) :
    p.isInStyleBlock id = .ok false := by
  obtain ⟨length, top, hends⟩ := hends
  obtain ⟨hleads, htop⟩ := h.leads_parentUnlessStyle? hends
  have hwalk : walk p.parentUnlessStyle? p.snapshot.nodes.length id = .ok top :=
    walk_eq_of_leads (fun _ hsome => Option.isSome_of_isSome_bind hsome) hleads
  refine Answer.bind_eq_ok.mpr ⟨top, hwalk, ?_⟩
  cases hnode : p.node? top with
  | none => rfl
  | some node =>
      rw [Option.any_some, htop .refl hnode]

end OutsideStyle

end Project

end SymbolNav
