import Mathlib.Logic.Relation
import SymbolNav.Proofs.Draft.Moves
import SymbolNav.Proofs.Navigation.Circles

/-!
# Forests

`Forest` is the invariant of a draft: links to parents and to children say the same, what lies below
a node other than a root lies inside it, siblings do not enclose one another and stand in the order
of their starts, and the root of its unit leads to every node. Nothing in it forbids circles. They are
excluded by the way up: a node has one parent only, so the number of links up to its root is a
measure of its depth, which grows with each link down.
-/

namespace SymbolNav

/-- What ties a node to its unit, its text and the nodes around it: everything but its kind. -/
structure Links where
  unit : UnitId
  span : Span
  parent : Option NodeId
  children : List NodeId

/-- The first node lists the second one as a child. -/
def Lists (links? : NodeId → Option Links) (parent child : NodeId) : Prop :=
  ∃ links, links? parent = some links ∧ child ∈ links.children

/-- The links of nodes form one tree for each unit that has a root. -/
structure Forest (root? : UnitId → Option NodeId) (links? : NodeId → Option Links) : Prop where
  root : ∀ {u : UnitId} {id : NodeId}, root? u = some id →
    ∃ links, links? id = some links ∧ links.unit = u ∧ links.parent = none
  top : ∀ {id : NodeId} {links : Links}, links? id = some links → links.parent = none →
    root? links.unit = some id
  listed : ∀ {id parent : NodeId} {links : Links}, links? id = some links →
    links.parent = some parent → Lists links? parent id
  child : ∀ {id child : NodeId} {links : Links}, links? id = some links → child ∈ links.children →
    ∃ below, links? child = some below ∧ below.unit = links.unit ∧ below.parent = some id
  once : ∀ {id : NodeId} {links : Links}, links? id = some links → links.children.Nodup
  sorted : ∀ {id : NodeId} {links : Links}, links? id = some links →
    links.children.Pairwise fun first second => ∀ {a b : Links}, links? first = some a →
      links? second = some b → a.span.start ≤ b.span.start
  inside : ∀ {id child : NodeId} {links below : Links}, links? id = some links →
    links.parent ≠ none → child ∈ links.children → links? child = some below →
    links.span.encloses below.span
  apart : ∀ {id first second : NodeId} {links a b : Links}, links? id = some links →
    first ∈ links.children → second ∈ links.children → first ≠ second →
    links? first = some a → links? second = some b → ¬ a.span.encloses b.span
  reached : ∀ {id : NodeId} {links : Links}, links? id = some links →
    ∃ root, root? links.unit = some root ∧ Relation.ReflTransGen (Lists links?) root id

namespace Forest

variable {root? : UnitId → Option NodeId} {links? : NodeId → Option Links} {id above below : NodeId}

/-- The next node on the way up to the root. -/
def parentIn (links? : NodeId → Option Links) (id : NodeId) : Option NodeId :=
  (links? id).bind (·.parent)

/-- Links to children and to parents say the same. -/
theorem lists_iff (h : Forest root? links?) :
    Lists links? above id ↔ parentIn links? id = some above := by
  constructor
  · rintro ⟨links, hlinks, hmem⟩
    obtain ⟨below, hbelow, -, hparent⟩ := h.child hlinks hmem
    rw [parentIn, hbelow]
    exact hparent
  · intro hparent
    obtain ⟨links, hlinks, hparent⟩ := Option.bind_eq_some_iff.mp hparent
    exact h.listed hlinks hparent

/-- The way up from a node that a root leads to ends at the root. -/
theorem exists_leads (h : Forest root? links?) {u : UnitId} {root : NodeId}
    (hroot : root? u = some root) (hreached : Relation.ReflTransGen (Lists links?) root id) :
    ∃ depth, Leads (parentIn links?) depth id root := by
  induction hreached with
  | refl =>
      obtain ⟨links, hlinks, -, hparent⟩ := h.root hroot
      refine ⟨0, .stop ?_⟩
      rw [parentIn, hlinks]
      exact hparent
  | tail _ hstep ih =>
      obtain ⟨depth, hleads⟩ := ih
      exact ⟨depth + 1, .move (h.lists_iff.mp hstep) hleads⟩

/-- The way up from anywhere ends. -/
theorem exists_depth (h : Forest root? links?) (id : NodeId) :
    ∃ depth top, Leads (parentIn links?) depth id top := by
  cases hlinks : links? id with
  | none => exact ⟨0, id, .stop (by rw [parentIn, hlinks]; rfl)⟩
  | some links =>
      obtain ⟨root, hroot, hreached⟩ := h.reached hlinks
      obtain ⟨depth, hleads⟩ := h.exists_leads hroot hreached
      exact ⟨depth, root, hleads⟩

/-- The number of links from a node up to its root. -/
noncomputable def depth (h : Forest root? links?) (id : NodeId) : Nat :=
  (h.exists_depth id).choose

theorem depth_of_lists (h : Forest root? links?) (hlists : Lists links? above id) :
    h.depth id = h.depth above + 1 := by
  obtain ⟨top, hleads⟩ := (h.exists_depth id).choose_spec
  obtain ⟨top', hleads'⟩ := (h.exists_depth above).choose_spec
  exact hleads.length_unique (.move (h.lists_iff.mp hlists) hleads')

theorem depth_lt (h : Forest root? links?) (hchain : Relation.TransGen (Lists links?) above below) :
    h.depth above < h.depth below := by
  induction hchain with
  | single hstep =>
      rw [h.depth_of_lists hstep]
      exact Nat.lt_succ_self _
  | tail _ hstep ih =>
      rw [h.depth_of_lists hstep]
      exact Nat.lt_succ_of_lt ih

theorem freeOfCircles (h : Forest root? links?) (id : NodeId) :
    FreeOfCircles (Lists links?) id := by
  intro node _ hcircle
  exact Nat.lt_irrefl _ (h.depth_lt hcircle)

theorem freeOfCircles_parents (h : Forest root? links?) (id : NodeId) :
    FreeOfCircles (fun child parent => parentIn links? child = some parent) id := by
  apply FreeOfCircles.of_rank h.depth
  intro child parent hparent
  rw [h.depth_of_lists (h.lists_iff.mpr hparent)]
  exact Nat.lt_succ_self _

/-- Nodes below a root belong to its unit. -/
theorem unit_of_reached (h : Forest root? links?) {root : NodeId} {top : Links}
    (hroot : links? root = some top) (hreached : Relation.ReflTransGen (Lists links?) root id) :
    ∃ links, links? id = some links ∧ links.unit = top.unit := by
  induction hreached with
  | refl => exact ⟨top, hroot, rfl⟩
  | tail _ hstep ih =>
      obtain ⟨links, hlinks, hunit⟩ := ih
      obtain ⟨found, hfound, hmem⟩ := hstep
      obtain rfl := Option.some.inj (hlinks.symm.trans hfound)
      obtain ⟨below, hbelow, hsame, -⟩ := h.child hlinks hmem
      exact ⟨below, hbelow, hsame.trans hunit⟩

end Forest

end SymbolNav
