import SymbolNav.Proofs.Draft.Growth
import SymbolNav.Proofs.Rename.Visits

/-!
# The trees of a built project

What steps build is read through a project. There each unit with a text has a tree of its own, whose
members are the nodes that were added to the unit, and all walks along its links come to an end. So
does the search for occurrences, which looks once at each node, as long as each look does: what a
node refers to is for the resolver to say, and a step may add a member access with any nodes as its
operands, itself among them, so the operands are no part of the tree.
-/

namespace SymbolNav

namespace Project

/-- A way down through children from the root to a node, with the nodes that are left on it, the
last one first. -/
inductive ChildPath (p : Project) (root : NodeId) : List NodeId → NodeId → Prop where
  | root : ChildPath p root [] root
  | child {path : List NodeId} {parent id : NodeId} (way : ChildPath p root path parent)
      (h : p.IsChild parent id) : ChildPath p root (parent :: path) id

/-- The members form a tree below a root, in which spans nest and stand in order. The root itself
may be exceeded, since a text does not limit the spans below it. -/
structure IsTree (p : Project) (root : NodeId) (member : NodeId → Prop) : Prop where
  below : ∀ {id : NodeId}, p.Below root id ↔ member id
  top : ∀ {id : NodeId}, member id → (p.parent? id = none ↔ id = root)
  one_path : ∀ {id : NodeId}, member id → ∃! path, p.ChildPath root path id
  listed : ∀ {id parent : NodeId}, member id → (p.parent? id = some parent ↔ p.IsChild parent id)
  once : ∀ {id : NodeId} {node : SyntaxNode}, member id → p.node? id = some node →
    node.children.Nodup
  inside : ∀ {id parent : NodeId} {node parentNode : SyntaxNode}, member id →
    p.node? id = some node → node.parent = some parent → parent ≠ root →
    p.node? parent = some parentNode → parentNode.span.encloses node.span
  apart : ∀ {id first second : NodeId} {node a b : SyntaxNode}, member id →
    p.node? id = some node → first ∈ node.children → second ∈ node.children → first ≠ second →
    p.node? first = some a → p.node? second = some b → ¬ a.span.encloses b.span
  sorted : ∀ {id : NodeId} {node : SyntaxNode}, member id → p.node? id = some node →
    node.children.Pairwise fun first second => ∀ {a b : SyntaxNode}, p.node? first = some a →
      p.node? second = some b → a.span.start ≤ b.span.start

/-- The search for occurrences in a unit looks at each of the members once, and at nothing else. -/
def SearchedOnce (p : Project) (u : UnitId) (member : NodeId → Prop) : Prop :=
  ∃ order : List NodeId, order.Nodup ∧ (∀ id, id ∈ order ↔ member id) ∧
    ∀ (ctx : Context) (targets : List DefId), ctx.project = p →
      ctx.scriptOccurrences u targets = (order.mapM (ctx.lookAt targets)).map List.flatten

variable {p : Project} {root id : NodeId} {path path' : List NodeId}

theorem exists_childPath (h : p.Below root id) : ∃ path, p.ChildPath root path id := by
  induction h with
  | refl => exact ⟨[], .root⟩
  | tail _ hchild ih =>
      obtain ⟨path, hpath⟩ := ih
      exact ⟨_ :: path, .child hpath hchild⟩

/-- Where each node has one parent and the root has none, there is one way only. -/
theorem ChildPath.unique
    (hone : ∀ {first second child : NodeId}, p.IsChild first child → p.IsChild second child →
      first = second)
    (hroot : ∀ parent, ¬ p.IsChild parent root) (h : p.ChildPath root path id)
    (h' : p.ChildPath root path' id) : path = path' := by
  induction h generalizing path' with
  | root =>
      cases h' with
      | root => rfl
      | child _ hchild => exact absurd hchild (hroot _)
  | child _ hchild ih =>
      cases h' with
      | root => exact absurd hchild (hroot _)
      | child way' hchild' =>
          obtain rfl := hone hchild hchild'
          exact congrArg _ (ih way')

end Project

namespace Draft

/-- The project that requests are answered from, once the steps are done. -/
abbrev project (d : Draft) (disk : FileTree) : Project :=
  .ofSnapshot disk d.snapshot

/-- The node was added to the unit. -/
def HasNode (d : Draft) (u : UnitId) (id : NodeId) : Prop :=
  ∃ node, d.nodes[id.index]? = some (u, node)

variable {d : Draft} {disk : FileTree} {u : UnitId} {root id parent child : NodeId}
variable {node : SyntaxNode}

theorem node?_ofSnapshot :
    (d.project disk).node? id = d.nodes[id.index]?.map (·.2) :=
  List.getElem?_map

theorem ast?_ofSnapshot : (d.project disk).ast? u = d.root? u :=
  root?_eq_bind.symm

theorem links?_of_node? (h : (d.project disk).node? id = some node) :
    ∃ u, d.links? id = some ⟨u, node.span, node.parent, node.children⟩ := by
  rw [node?_ofSnapshot] at h
  obtain ⟨⟨u, found⟩, hfound, rfl⟩ := Option.map_eq_some_iff.mp h
  exact ⟨u, links?_eq_some.mpr ⟨_, hfound, rfl⟩⟩

theorem node?_of_links? (disk : FileTree) {links : Links} (h : d.links? id = some links) :
    ∃ node, (d.project disk).node? id = some node ∧
      Links.ofNode (links.unit, node) = links ∧ d.HasNode links.unit id := by
  obtain ⟨⟨u, node⟩, hn, rfl⟩ := links?_eq_some.mp h
  refine ⟨node, ?_, rfl, node, hn⟩
  rw [node?_ofSnapshot, hn]
  rfl

theorem hasNode_iff : d.HasNode u id ↔ ∃ links, d.links? id = some links ∧ links.unit = u := by
  constructor
  · rintro ⟨node, hnode⟩
    exact ⟨_, links?_eq_some.mpr ⟨_, hnode, rfl⟩, rfl⟩
  · rintro ⟨links, hlinks, rfl⟩
    obtain ⟨⟨u, node⟩, hn, rfl⟩ := links?_eq_some.mp hlinks
    exact ⟨node, hn⟩

theorem isChild_iff_lists :
    (d.project disk).IsChild parent child ↔ Lists d.links? parent child := by
  constructor
  · rintro ⟨node, hnode, hmem⟩
    obtain ⟨u, hlinks⟩ := links?_of_node? hnode
    exact ⟨_, hlinks, hmem⟩
  · rintro ⟨links, hlinks, hmem⟩
    obtain ⟨node, hnode, heq, -⟩ := node?_of_links? disk hlinks
    rw [← heq] at hmem
    exact ⟨node, hnode, hmem⟩

theorem parent?_eq : (d.project disk).parent? id = Forest.parentIn d.links? id := by
  rw [Project.parent?, node?_ofSnapshot, Forest.parentIn, links?, List.getElem?_map,
    Option.bind_map, Option.bind_map]
  rfl

namespace IsForest

variable (h : d.IsForest)
include h

theorem listed_iff :
    (d.project disk).parent? id = some parent ↔
      (d.project disk).IsChild parent id := by
  rw [parent?_eq, isChild_iff_lists]
  exact h.forest.lists_iff.symm

theorem freeOfCircles_children (disk : FileTree) (id : NodeId) :
    FreeOfCircles (d.project disk).IsChild id :=
  (h.forest.freeOfCircles id).mono isChild_iff_lists.mp

theorem freeOfCircles_parents (disk : FileTree) (id : NodeId) :
    FreeOfCircles (fun child parent =>
      (d.project disk).parent? child = some parent) id :=
  (h.forest.freeOfCircles_parents id).mono fun hparent => parent?_eq.symm.trans hparent

theorem branching (disk : FileTree) : (d.project disk).Branching where
  once := by
    intro id node hnode
    obtain ⟨u, hlinks⟩ := links?_of_node? hnode
    exact h.forest.once hlinks
  one := by
    intro first second child hfirst hsecond
    exact Option.some.inj ((h.listed_iff.mpr hfirst).symm.trans (h.listed_iff.mpr hsecond))
  free := h.freeOfCircles_children disk

theorem below_iff_hasNode (disk : FileTree) (hroot : d.root? u = some root) :
    (d.project disk).Below root id ↔ d.HasNode u id := by
  obtain ⟨top, htop, hunit, -⟩ := h.forest.root hroot
  have hlists : (d.project disk).IsChild = Lists d.links? := by
    funext parent child
    exact propext isChild_iff_lists
  rw [Project.Below, hlists, hasNode_iff]
  constructor
  · intro hreached
    obtain ⟨links, hlinks, hsame⟩ := h.forest.unit_of_reached htop hreached
    exact ⟨links, hlinks, hsame.trans hunit⟩
  · rintro ⟨links, hlinks, rfl⟩
    obtain ⟨found, hfound, hreached⟩ := h.forest.reached hlinks
    obtain rfl := Option.some.inj (hroot.symm.trans hfound)
    exact hreached

theorem parent?_eq_none_iff (disk : FileTree) (hroot : d.root? u = some root)
    (hid : d.HasNode u id) :
    (d.project disk).parent? id = none ↔ id = root := by
  rw [parent?_eq]
  obtain ⟨links, hlinks, rfl⟩ := hasNode_iff.mp hid
  constructor
  · intro hnone
    rw [Forest.parentIn, hlinks] at hnone
    exact Option.some.inj ((h.forest.top hlinks hnone).symm.trans hroot)
  · rintro rfl
    obtain ⟨top, htop, -, hparent⟩ := h.forest.root hroot
    rw [Forest.parentIn, htop]
    exact hparent

/-- A node and the one that lists it belong to the same unit. -/
theorem hasNode_of_lists (hlists : Lists d.links? parent child) (hchild : d.HasNode u child) :
    d.HasNode u parent := by
  obtain ⟨links, hlinks, hmem⟩ := hlists
  obtain ⟨below, hbelow, hsame, -⟩ := h.forest.child hlinks hmem
  obtain ⟨found, hfound, rfl⟩ := hasNode_iff.mp hchild
  obtain rfl := Option.some.inj (hbelow.symm.trans hfound)
  exact hasNode_iff.mpr ⟨links, hlinks, hsame.symm⟩

theorem isTree (disk : FileTree) (hroot : d.root? u = some root) :
    (d.project disk).IsTree root (d.HasNode u) where
  below := h.below_iff_hasNode disk hroot
  top := h.parent?_eq_none_iff disk hroot
  one_path := by
    intro id hid
    obtain ⟨path, hpath⟩ := Project.exists_childPath ((h.below_iff_hasNode disk hroot).mpr hid)
    refine ⟨path, hpath, ?_⟩
    intro path' hpath'
    refine hpath'.unique (h.branching disk).one ?_ hpath
    intro parent hchild
    have hmem : d.HasNode u root := (h.below_iff_hasNode disk hroot).mp .refl
    have hnone := (h.parent?_eq_none_iff disk hroot hmem).mpr rfl
    cases hnone.symm.trans (h.listed_iff.mpr hchild)
  listed _ := h.listed_iff
  once _ := (h.branching disk).once
  inside := by
    intro id parent node parentNode hid hnode hparent hne hparentNode
    obtain ⟨_, hlinks⟩ := links?_of_node? hnode
    obtain ⟨_, habove⟩ := links?_of_node? hparentNode
    have hlists : Lists d.links? parent id := h.forest.listed hlinks hparent
    obtain ⟨above, hfound, hmem⟩ := hlists
    obtain rfl := Option.some.inj (habove.symm.trans hfound)
    refine h.forest.inside habove ?_ hmem hlinks
    intro hnone
    apply hne
    apply (h.parent?_eq_none_iff disk hroot (h.hasNode_of_lists ⟨_, habove, hmem⟩ hid)).mp
    rw [Project.parent?, hparentNode]
    exact hnone
  apart := by
    intro id first second node a b _ hnode hfirst hsecond hne ha hb
    obtain ⟨_, hlinks⟩ := links?_of_node? hnode
    obtain ⟨_, ha⟩ := links?_of_node? ha
    obtain ⟨_, hb⟩ := links?_of_node? hb
    exact h.forest.apart hlinks hfirst hsecond hne ha hb
  sorted := by
    intro id node _ hnode
    obtain ⟨_, hlinks⟩ := links?_of_node? hnode
    refine (h.forest.sorted hlinks).imp ?_
    intro first second hle a b ha hb
    obtain ⟨_, ha⟩ := links?_of_node? ha
    obtain ⟨_, hb⟩ := links?_of_node? hb
    exact hle ha hb

/-- Units with a text have a root. -/
theorem exists_root {unit : UnitSnapshot} (hunit : d.units[u.index]? = some unit)
    (htext : unit.text.isSome) : ∃ root, unit.ast = some root := by
  have hmem : (unit.text, unit.ast) ∈ d.trees :=
    List.mem_map.mpr ⟨unit, List.mem_of_getElem? hunit, rfl⟩
  exact Option.isSome_iff_exists.mp ((h.rooted _ hmem).symm.trans htext)

/-- Nodes are added to units with a text. -/
theorem exists_unit (hid : d.HasNode u id) :
    ∃ unit, d.units[u.index]? = some unit ∧ unit.text.isSome := by
  obtain ⟨links, hlinks, rfl⟩ := hasNode_iff.mp hid
  obtain ⟨root, hroot, -⟩ := h.forest.reached hlinks
  rw [root?_eq_bind] at hroot
  obtain ⟨unit, hunit, hast⟩ := Option.bind_eq_some_iff.mp hroot
  have hmem : (unit.text, unit.ast) ∈ d.trees :=
    List.mem_map.mpr ⟨unit, List.mem_of_getElem? hunit, rfl⟩
  refine ⟨unit, hunit, (h.rooted _ hmem).trans ?_⟩
  exact Option.isSome_iff_exists.mpr ⟨root, hast⟩

theorem mem_preorder_iff_hasNode (disk : FileTree) (hroot : d.root? u = some root) :
    id ∈ (d.project disk).preorder (d.project disk).snapshot.nodes.length root ↔
      d.HasNode u id := by
  rw [← h.below_iff_hasNode disk hroot]
  constructor
  · intro hmem
    exact (Project.below_of_mem_preorder hmem).1
  · intro hbelow
    obtain ⟨node, hnode⟩ := (h.below_iff_hasNode disk hroot).mp hbelow
    have hfound : (d.project disk).node? id = some node := by
      rw [node?_ofSnapshot, hnode]
      rfl
    exact Project.mem_preorder_of_below (h.freeOfCircles_children disk root) hbelow hfound

theorem searchedOnce (disk : FileTree) (hroot : d.root? u = some root) :
    (d.project disk).SearchedOnce u (d.HasNode u) := by
  refine ⟨_, (h.branching disk).nodup_preorder _ root,
    fun id => h.mem_preorder_iff_hasNode disk hroot, ?_⟩
  intro ctx targets hproject
  rw [← hproject]
  apply Context.scriptOccurrences_eq_preorder
  · rw [hproject, ast?_ofSnapshot]
    exact hroot
  · rw [hproject]
    exact h.freeOfCircles_children disk root

/-- The search comes to an end if it can find out at each node of the unit what the node refers
to. -/
theorem scriptOccurrences_ends {ctx : Context} {targets : List DefId} (disk : FileTree)
    (hproject : ctx.project = d.project disk)
    (hlookups : ∀ id, d.HasNode u id → (ctx.resolver.identifier (d.project disk) id).Ends) :
    (ctx.scriptOccurrences u targets).Ends := by
  cases hroot : d.root? u with
  | none =>
      rw [Context.scriptOccurrences, hproject, ast?_ofSnapshot, hroot]
      exact Answer.ends_ok []
  | some root =>
      have hast : ctx.project.ast? u = some root := by
        rw [hproject, ast?_ofSnapshot]
        exact hroot
      apply Context.scriptOccurrences_ends_of_lookups hast
      · rw [hproject]
        exact h.freeOfCircles_children disk root
      · intro id hbelow
        rw [hproject] at hbelow ⊢
        exact hlookups id ((h.below_iff_hasNode disk hroot).mp hbelow)

end IsForest

/-- Whatever the steps are, as long as none of them fails they build a tree for each unit with a
text. The walks through it come to an end, and the search for occurrences looks once at each of its
nodes. It ends where the looks do: always if bindings alone count, and for the standard resolver if
the operands that it follows lead round in no circle. -/
theorem build_grows_forest {steps : List Step} (hbuild : build steps = .ok d) (disk : FileTree) :
    (∀ {u : UnitId} {unit : UnitSnapshot}, d.units[u.index]? = some unit → unit.text.isSome →
      ∃ root, unit.ast = some root ∧ (d.project disk).IsTree root (d.HasNode u) ∧
        (d.project disk).SearchedOnce u (d.HasNode u)) ∧
    (∀ {u : UnitId} {id : NodeId}, d.HasNode u id →
      ∃ unit, d.units[u.index]? = some unit ∧ unit.text.isSome) ∧
    (∀ id offset, ∃ found, (d.project disk).innermostNode id offset = .ok found) ∧
    (∀ id, ∃ found, (d.project disk).enclosingClass id = .ok found) ∧
    (∀ id, ∃ found, (d.project disk).isInStyleBlock id = .ok found) ∧
    (∀ {ctx : Context} {u : UnitId} {targets : List DefId}, ctx.project = d.project disk →
      (∀ id, d.HasNode u id → (ctx.resolver.identifier (d.project disk) id).Ends) →
      (ctx.scriptOccurrences u targets).Ends) ∧
    (∀ {ctx : Context} {u : UnitId} {targets : List DefId}, ctx.project = d.project disk →
      ctx.resolver = .bindingsOnly ∨
        ctx.resolver = .standard ∧ (∀ {id access : NodeId}, d.HasNode u id →
          (d.project disk).parent? id = some access →
          FreeOfCircles (d.project disk).IsOperand access) →
      (ctx.scriptOccurrences u targets).Ends) := by
  have h : d.IsForest := isForest_of_build hbuild
  refine ⟨?_, h.exists_unit,
    fun id => Project.exists_innermostNode (h.freeOfCircles_children disk id),
    fun id => Project.exists_enclosingClass (h.freeOfCircles_parents disk id),
    fun id => Project.exists_isInStyleBlock (h.freeOfCircles_parents disk id),
    h.scriptOccurrences_ends disk, ?_⟩
  · intro u unit hunit htext
    obtain ⟨root, hast⟩ := h.exists_root hunit htext
    have hroot : d.root? u = some root := by
      rw [root?_eq_bind, hunit]
      exact hast
    exact ⟨root, hast, h.isTree disk hroot, h.searchedOnce disk hroot⟩
  · intro ctx u targets hproject hresolver
    refine h.scriptOccurrences_ends disk hproject fun id hid => ?_
    rcases hresolver with hresolver | ⟨hresolver, hoperands⟩
    · rw [hresolver]
      exact Resolver.bindingsOnly_ends
    · rw [hresolver]
      exact Resolver.standard_ends (hoperands hid)

end Draft

namespace GrowthSample

/-! The member access `a.b`, inside two nodes with the same span that goes beyond the text, with a
node upside down inside `a`, beside a node that overlaps both, and a library. -/

def steps : List Draft.Step :=
  [.script ⟨"/p/A.as"⟩ "a.b", .reference ⟨0⟩ "a" 0 none,
    .node ⟨0⟩ (.memberAccess ⟨1⟩ ⟨6⟩) ⟨0, 3⟩, .node ⟨0⟩ .other ⟨0, 9⟩, .node ⟨0⟩ .other ⟨0, 9⟩,
    .node ⟨0⟩ .other ⟨1, 0⟩, .reference ⟨0⟩ "b" 0 none, .node ⟨0⟩ .other ⟨2, 12⟩,
    .libraryClass ⟨"/p/lib.swc"⟩ "p" "C"]

/-- Unit, kind, span and parent of each node that the steps build. -/
def nodes : List (UnitId × NodeKind × Span × Option NodeId) :=
  [(⟨0⟩, .other, ⟨0, 3⟩, none), (⟨0⟩, .identifier "a", ⟨0, 1⟩, some ⟨2⟩),
    (⟨0⟩, .memberAccess ⟨1⟩ ⟨6⟩, ⟨0, 3⟩, some ⟨4⟩), (⟨0⟩, .other, ⟨0, 9⟩, some ⟨0⟩),
    (⟨0⟩, .other, ⟨0, 9⟩, some ⟨3⟩), (⟨0⟩, .other, ⟨1, 0⟩, some ⟨1⟩),
    (⟨0⟩, .identifier "b", ⟨2, 3⟩, some ⟨2⟩), (⟨0⟩, .other, ⟨2, 12⟩, some ⟨0⟩)]

theorem exists_draft : ∃ d, Draft.build steps = .ok d ∧
    d.nodes.map (fun n => (n.1, n.2.kind, n.2.span, n.2.parent)) = nodes ∧
    d.trees = [(some "a.b", some ⟨0⟩), (none, none)] := by
  have hnodes : ((Draft.build steps).toOption.map fun d =>
      d.nodes.map fun n => (n.1, n.2.kind, n.2.span, n.2.parent)) = some nodes := by
    decide +kernel
  have htrees : (Draft.build steps).toOption.map Draft.trees =
      some [(some "a.b", some ⟨0⟩), (none, none)] := by
    decide +kernel
  cases hbuild : Draft.build steps with
  | error e =>
      rw [hbuild] at hnodes
      cases hnodes
  | ok d =>
      rw [hbuild] at hnodes htrees
      exact ⟨d, rfl, Option.some.inj hnodes, Option.some.inj htrees⟩

theorem exists_first_unit {d : Draft} (htrees : d.trees = [(some "a.b", some ⟨0⟩), (none, none)]) :
    ∃ unit, d.units[(⟨0⟩ : UnitId).index]? = some unit ∧ unit.text.isSome := by
  have hfirst : d.trees[0]? = some (some "a.b", some ⟨0⟩) := by rw [htrees]; rfl
  rw [Draft.trees, List.getElem?_map] at hfirst
  obtain ⟨unit, hunit, heq⟩ := Option.map_eq_some_iff.mp hfirst
  refine ⟨unit, hunit, ?_⟩
  rw [(Prod.mk.inj heq).1]
  rfl

/-- The node upside down belongs to the script. -/
theorem hasNode_five {d : Draft}
    (hnodes : d.nodes.map (fun n => (n.1, n.2.kind, n.2.span, n.2.parent)) = nodes) :
    d.HasNode ⟨0⟩ ⟨5⟩ := by
  have hfifth : (d.nodes.map fun n => (n.1, n.2.kind, n.2.span, n.2.parent))[5]? =
      some (⟨0⟩, .other, ⟨1, 0⟩, some ⟨1⟩) := by
    rw [hnodes]
    rfl
  rw [List.getElem?_map] at hfifth
  obtain ⟨⟨u, node⟩, hnode, heq⟩ := Option.map_eq_some_iff.mp hfifth
  obtain rfl : u = ⟨0⟩ := (Prod.mk.inj heq).1
  exact ⟨node, hnode⟩

/-- The operands of the one member access are identifiers. -/
theorem operands_free {d : Draft}
    (hnodes : d.nodes.map (fun n => (n.1, n.2.kind, n.2.span, n.2.parent)) = nodes)
    (access : NodeId) : FreeOfCircles (d.project {}).IsOperand access := by
  refine .of_rank (fun id => if id = ⟨2⟩ then 1 else 0) ?_
  rintro ⟨i⟩ operand ⟨node, left, right, hnode, hkind, hoperand⟩
  rw [Draft.node?_ofSnapshot] at hnode
  obtain ⟨n, hn, rfl⟩ := Option.map_eq_some_iff.mp hnode
  have hlisted : (nodes.map (·.2.1))[i]? = some (.memberAccess left right) := by
    rw [← hnodes, List.map_map, List.getElem?_map, hn, ← hkind]
    rfl
  rcases i with _ | _ | _ | _ | _ | _ | _ | _ | i <;> cases hlisted
  rcases hoperand with rfl | rfl <;> decide

end GrowthSample

theorem Draft.build_grows_forest_of_sample :
    ∃ d, build GrowthSample.steps = .ok d ∧
      (∃ root, (d.project {}).IsTree root (d.HasNode ⟨0⟩) ∧
        (d.project {}).SearchedOnce ⟨0⟩ (d.HasNode ⟨0⟩)) ∧
      (d.HasNode ⟨0⟩ ⟨5⟩ ∧ ∃ unit, d.units[0]? = some unit ∧ unit.text.isSome) ∧
      (∃ found, (d.project {}).innermostNode ⟨0⟩ 2 = .ok found) ∧
      (∃ found, (d.project {}).enclosingClass ⟨5⟩ = .ok found) ∧
      (∃ found, (d.project {}).isInStyleBlock ⟨5⟩ = .ok found) ∧
      ((⟨d.project {}, {}, .standard, false⟩ : Context).scriptOccurrences ⟨0⟩ []).Ends ∧
      ((⟨d.project {}, {}, ⟨[fun _ _ => .ok none]⟩, false⟩ : Context).scriptOccurrences
        ⟨0⟩ []).Ends := by
  obtain ⟨d, hbuild, hnodes, htrees⟩ := GrowthSample.exists_draft
  obtain ⟨htree, howner, hinnermost, hclass, hstyle, hlookups, hsearch⟩ :=
    build_grows_forest hbuild {}
  obtain ⟨unit, hunit, htext⟩ := GrowthSample.exists_first_unit htrees
  have hnode := GrowthSample.hasNode_five hnodes
  refine ⟨d, hbuild, ?_, ⟨hnode, howner hnode⟩, hinnermost _ _, hclass _, hstyle _, ?_, ?_⟩
  · obtain ⟨root, -, htree, hsearched⟩ := htree hunit htext
    exact ⟨root, htree, hsearched⟩
  · exact hsearch rfl (Or.inr ⟨rfl, fun _ _ => GrowthSample.operands_free hnodes _⟩)
  · refine hlookups rfl fun id _ => Resolver.identifier_ends fun fallback hfallback => ?_
    obtain rfl := List.mem_singleton.mp hfallback
    exact Answer.ends_ok none

namespace OperandSample

/-! A class, and in another file a member access that is its own left operand. -/

def steps : List Draft.Step :=
  [.script ⟨"/p/A.as"⟩ "class A {}", .classDecl ⟨0⟩ none "A", .script ⟨"/p/B.as"⟩ "a.b",
    .node ⟨1⟩ (.memberAccess ⟨4⟩ ⟨5⟩) ⟨0, 3⟩, .reference ⟨1⟩ "b" 0 none]

end OperandSample

/-- The trees are searched, but one of the looks never ends: the name of a member access that is its
own operand is as long as one likes. -/
theorem Draft.search_endless_on_operand :
    ∃ d, build OperandSample.steps = .ok d ∧
      (⟨d.project {}, {}, .standard, false⟩ : Context).scriptOccurrences ⟨1⟩ [⟨0⟩] =
        .error .endless := by
  have hendless : ((build OperandSample.steps).toOption.map fun d =>
      (⟨d.project {}, {}, .standard, false⟩ : Context).scriptOccurrences ⟨1⟩ [⟨0⟩]) =
      some (.error .endless) := by
    decide +kernel
  cases hbuild : build OperandSample.steps with
  | error e =>
      rw [hbuild] at hendless
      cases hendless
  | ok d =>
      rw [hbuild] at hendless
      exact ⟨d, rfl, Option.some.inj hendless⟩

end SymbolNav
