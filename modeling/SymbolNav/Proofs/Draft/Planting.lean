import SymbolNav.Proofs.Draft.Forest

/-!
# Roots and nodes are added to a forest

Two changes grow a forest. A new unit brings its root, which nothing is linked to yet. A new node
goes below a node of the forest, its parent, and comes between the parent and some of its children:
those that the new node encloses are adopted by it, the others are kept, and the new node joins
them. `NewRoot` and `NewNode` say all that changes; a forest stays one. For a new node this takes two
conditions: the parent, if it is no root, encloses the new node, and none of its children does.
-/

namespace SymbolNav

variable {root? root?' : UnitId → Option NodeId} {links? links?' : NodeId → Option Links}

/-- A unit is added, with a node that has neither a parent nor children as its root. -/
structure NewRoot (root? root?' : UnitId → Option NodeId) (links? links?' : NodeId → Option Links)
    (u : UnitId) (fresh : NodeId) (span : Span) : Prop where
  no_root : root? u = none
  no_node : links? fresh = none
  root_eq : ∀ v, root?' v = if v = u then some fresh else root? v
  links_eq : ∀ id, links?' id = if id = fresh then some ⟨u, span, none, []⟩ else links? id

/-- A node of a unit is added below another node, and adopts some of its children. -/
structure NewNode (links? links?' : NodeId → Option Links) (u : UnitId) (span : Span)
    (fresh parent : NodeId) (above : Links) (adopted children : List NodeId) : Prop where
  no_node : links? fresh = none
  parent_eq : links? parent = some above
  adopted_sublist : adopted.Sublist above.children
  mem_adopted : ∀ {child : NodeId} {below : Links}, child ∈ above.children →
    links? child = some below → (child ∈ adopted ↔ span.encloses below.span)
  mem_children : ∀ {child : NodeId}, child ∈ children ↔
    child = fresh ∨ child ∈ above.children ∧ child ∉ adopted
  once : above.children.Nodup → fresh ∉ above.children → children.Nodup
  sorted : children.Pairwise fun first second => ∀ {a b : Links}, links?' first = some a →
    links?' second = some b → a.span.start ≤ b.span.start
  links_eq : ∀ id, links?' id =
    if id = fresh then some ⟨u, span, some parent, adopted⟩
    else (links? id).map fun links =>
      ⟨links.unit, links.span, if id ∈ adopted then some fresh else links.parent,
        if id = parent then children else links.children⟩

namespace NewRoot

variable {u : UnitId} {fresh id child above : NodeId} {span : Span} {links below : Links}

theorem kept (c : NewRoot root? root?' links? links?' u fresh span)
    (hlinks : links? id = some links) : links?' id = some links := by
  rw [c.links_eq, if_neg, hlinks]
  rintro rfl
  cases c.no_node.symm.trans hlinks

theorem cases (c : NewRoot root? root?' links? links?' u fresh span)
    (hlinks : links?' id = some links) :
    id = fresh ∧ links = ⟨u, span, none, []⟩ ∨ links? id = some links := by
  rw [c.links_eq] at hlinks
  split at hlinks
  · rename_i hid
    exact Or.inl ⟨hid, (Option.some.inj hlinks).symm⟩
  · exact Or.inr hlinks

theorem root_of_eq_some (c : NewRoot root? root?' links? links?' u fresh span) {v : UnitId}
    (hroot : root? v = some id) : root?' v = some id := by
  rw [c.root_eq, if_neg, hroot]
  rintro rfl
  cases c.no_root.symm.trans hroot

theorem lists (c : NewRoot root? root?' links? links?' u fresh span) (h : Lists links? above id) :
    Lists links?' above id := by
  obtain ⟨links, hlinks, hmem⟩ := h
  exact ⟨links, c.kept hlinks, hmem⟩

/-- The children of an old node are found as before. -/
theorem child_eq (c : NewRoot root? root?' links? links?' u fresh span) (h : Forest root? links?)
    (hlinks : links? id = some links) (hmem : child ∈ links.children)
    (hbelow : links?' child = some below) : links? child = some below := by
  obtain ⟨found, hfound, -, -⟩ := h.child hlinks hmem
  rw [hfound]
  exact (c.kept hfound).symm.trans hbelow

/-- The new root has no children and no parent, so all that is said about links is about old
nodes. -/
theorem forest (c : NewRoot root? root?' links? links?' u fresh span) (h : Forest root? links?) :
    Forest root?' links?' where
  root := by
    intro v id hv
    rw [c.root_eq] at hv
    split at hv
    · rename_i hvu
      cases hv
      exact ⟨⟨u, span, none, []⟩, by rw [c.links_eq, if_pos rfl], hvu.symm, rfl⟩
    · obtain ⟨links, hlinks, hrest⟩ := h.root hv
      exact ⟨links, c.kept hlinks, hrest⟩
  top := by
    intro id links hlinks hparent
    rcases c.cases hlinks with ⟨rfl, rfl⟩ | hold
    · rw [c.root_eq, if_pos rfl]
    · exact c.root_of_eq_some (h.top hold hparent)
  listed := by
    intro id parent links hlinks hparent
    rcases c.cases hlinks with ⟨rfl, rfl⟩ | hold
    · cases hparent
    · exact c.lists (h.listed hold hparent)
  child := by
    intro id child links hlinks hmem
    rcases c.cases hlinks with ⟨rfl, rfl⟩ | hold
    · cases hmem
    · obtain ⟨below, hbelow, hrest⟩ := h.child hold hmem
      exact ⟨below, c.kept hbelow, hrest⟩
  once := by
    intro id links hlinks
    rcases c.cases hlinks with ⟨rfl, rfl⟩ | hold
    · exact List.nodup_nil
    · exact h.once hold
  sorted := by
    intro id links hlinks
    rcases c.cases hlinks with ⟨rfl, rfl⟩ | hold
    · exact List.Pairwise.nil
    · refine (h.sorted hold).imp_of_mem ?_
      intro first second hfirst hsecond hle a b ha hb
      exact hle (c.child_eq h hold hfirst ha) (c.child_eq h hold hsecond hb)
  inside := by
    intro id child links below hlinks hparent hmem hbelow
    rcases c.cases hlinks with ⟨rfl, rfl⟩ | hold
    · cases hmem
    · exact h.inside hold hparent hmem (c.child_eq h hold hmem hbelow)
  apart := by
    intro id first second links a b hlinks hfirst hsecond hne ha hb
    rcases c.cases hlinks with ⟨rfl, rfl⟩ | hold
    · cases hfirst
    · exact h.apart hold hfirst hsecond hne (c.child_eq h hold hfirst ha)
        (c.child_eq h hold hsecond hb)
  reached := by
    intro id links hlinks
    rcases c.cases hlinks with ⟨rfl, rfl⟩ | hold
    · exact ⟨id, by rw [c.root_eq, if_pos rfl], .refl⟩
    · obtain ⟨root, hroot, hreached⟩ := h.reached hold
      exact ⟨root, c.root_of_eq_some hroot,
        Relation.ReflTransGen.mono (fun _ _ => c.lists) _ _ hreached⟩

end NewRoot

namespace NewNode

variable {u : UnitId} {span : Span} {fresh parent id child : NodeId} {above links new below : Links}
variable {adopted children : List NodeId}

theorem fresh_eq (c : NewNode links? links?' u span fresh parent above adopted children) :
    links?' fresh = some ⟨u, span, some parent, adopted⟩ := by
  rw [c.links_eq, if_pos rfl]

/-- What becomes of an old node. -/
theorem kept (c : NewNode links? links?' u span fresh parent above adopted children)
    (hlinks : links? id = some links) :
    links?' id = some ⟨links.unit, links.span, if id ∈ adopted then some fresh else links.parent,
      if id = parent then children else links.children⟩ := by
  rw [c.links_eq, if_neg, hlinks]
  · rfl
  · rintro rfl
    cases c.no_node.symm.trans hlinks

theorem cases (c : NewNode links? links?' u span fresh parent above adopted children)
    (hnew : links?' id = some new) :
    id = fresh ∧ new = ⟨u, span, some parent, adopted⟩ ∨
      ∃ links, links? id = some links ∧
        new = ⟨links.unit, links.span, if id ∈ adopted then some fresh else links.parent,
          if id = parent then children else links.children⟩ := by
  rw [c.links_eq] at hnew
  split at hnew
  · rename_i hid
    exact Or.inl ⟨hid, (Option.some.inj hnew).symm⟩
  · obtain ⟨links, hlinks, heq⟩ := Option.map_eq_some_iff.mp hnew
    exact Or.inr ⟨links, hlinks, heq.symm⟩

/-- The span of an old node stays. -/
theorem span_eq (c : NewNode links? links?' u span fresh parent above adopted children)
    (hlinks : links? id = some links) (hnew : links?' id = some new) : new.span = links.span := by
  obtain rfl := Option.some.inj ((c.kept hlinks).symm.trans hnew)
  rfl

/-- An old link to a child stays, or leads to the new node and on from there. -/
theorem lists_or (c : NewNode links? links?' u span fresh parent above adopted children)
    (hstep : Lists links? child id) :
    Lists links?' child id ∨ child = parent ∧ id ∈ adopted := by
  obtain ⟨links, hlinks, hmem⟩ := hstep
  by_cases hchild : child = parent
  · by_cases hadopted : id ∈ adopted
    · exact Or.inr ⟨hchild, hadopted⟩
    · subst hchild
      obtain rfl := Option.some.inj (hlinks.symm.trans c.parent_eq)
      refine Or.inl ⟨_, c.kept hlinks, ?_⟩
      rw [if_pos rfl]
      exact c.mem_children.mpr (Or.inr ⟨hmem, hadopted⟩)
  · refine Or.inl ⟨_, c.kept hlinks, ?_⟩
    rw [if_neg hchild]
    exact hmem

theorem lists_fresh (c : NewNode links? links?' u span fresh parent above adopted children) :
    Lists links?' parent fresh := by
  refine ⟨_, c.kept c.parent_eq, ?_⟩
  rw [if_pos rfl]
  exact c.mem_children.mpr (Or.inl rfl)

theorem reached_of_lists (c : NewNode links? links?' u span fresh parent above adopted children)
    (hstep : Lists links? child id) :
    Relation.ReflTransGen (Lists links?') child id := by
  rcases c.lists_or hstep with hstep | ⟨rfl, hadopted⟩
  · exact .single hstep
  · exact .head c.lists_fresh (.single ⟨_, c.fresh_eq, hadopted⟩)

/-- What was below a node is still below it. -/
theorem reached (c : NewNode links? links?' u span fresh parent above adopted children)
    (hreached : Relation.ReflTransGen (Lists links?) child id) :
    Relation.ReflTransGen (Lists links?') child id := by
  induction hreached with
  | refl => exact .refl
  | tail _ hstep ih => exact ih.trans (c.reached_of_lists hstep)

section

variable (c : NewNode links? links?' u span fresh parent above adopted children)
variable (h : Forest root? links?)
include c h

theorem parent_of_adopted (hchild : child ∈ adopted) :
    ∃ below, links? child = some below ∧ below.unit = above.unit ∧ below.parent = some parent :=
  h.child c.parent_eq (c.adopted_sublist.subset hchild)

theorem not_mem_adopted (hlinks : links? id = some links) (hparent : links.parent ≠ some parent) :
    id ∉ adopted := by
  intro hmem
  obtain ⟨below, hbelow, -, hup⟩ := c.parent_of_adopted h hmem
  obtain rfl := Option.some.inj (hlinks.symm.trans hbelow)
  exact hparent hup

theorem fresh_not_mem (hlinks : links? id = some links) : fresh ∉ links.children := by
  intro hmem
  obtain ⟨below, hbelow, -⟩ := h.child hlinks hmem
  cases c.no_node.symm.trans hbelow

/-- A node that had no parent still has none. -/
theorem parent_ne_none (hlinks : links? id = some links)
    (hparent : (if id ∈ adopted then some fresh else links.parent) ≠ none) :
    links.parent ≠ none := by
  split at hparent
  · rename_i hadopted
    obtain ⟨below, hbelow, -, hup⟩ := c.parent_of_adopted h hadopted
    obtain rfl := Option.some.inj (hlinks.symm.trans hbelow)
    rw [hup]
    exact Option.some_ne_none parent
  · exact hparent

theorem child_of_fresh (hchild : child ∈ adopted) (hunit : above.unit = u) :
    ∃ below, links?' child = some below ∧ below.unit = u ∧ below.parent = some fresh := by
  obtain ⟨below, hbelow, hsame, -⟩ := c.parent_of_adopted h hchild
  exact ⟨_, c.kept hbelow, hsame.trans hunit, if_pos hchild⟩

theorem child_of_parent (hchild : child ∈ children) (hunit : above.unit = u) :
    ∃ below, links?' child = some below ∧ below.unit = u ∧ below.parent = some parent := by
  rcases c.mem_children.mp hchild with rfl | ⟨hmem, hadopted⟩
  · exact ⟨_, c.fresh_eq, rfl, rfl⟩
  · obtain ⟨below, hbelow, hsame, hup⟩ := h.child c.parent_eq hmem
    exact ⟨_, c.kept hbelow, hsame.trans hunit, (if_neg hadopted).trans hup⟩

theorem child_of_other (hlinks : links? id = some links) (hid : id ≠ parent)
    (hchild : child ∈ links.children) :
    ∃ below, links?' child = some below ∧ below.unit = links.unit ∧ below.parent = some id := by
  obtain ⟨below, hbelow, hsame, hup⟩ := h.child hlinks hchild
  have hadopted : child ∉ adopted := by
    apply c.not_mem_adopted h hbelow
    rw [hup]
    intro heq
    exact hid (Option.some.inj heq)
  exact ⟨_, c.kept hbelow, hsame, (if_neg hadopted).trans hup⟩

/-- The spans of the children of an old node are those they had. -/
theorem exists_old_child (hlinks : links? id = some links) (hchild : child ∈ links.children)
    (hnew : links?' child = some new) :
    ∃ below, links? child = some below ∧ new.span = below.span := by
  obtain ⟨below, hbelow, -, -⟩ := h.child hlinks hchild
  exact ⟨below, hbelow, c.span_eq hbelow hnew⟩

theorem sorted_of_sublist (hlinks : links? id = some links) {kept : List NodeId}
    (hkept : kept.Sublist links.children) :
    kept.Pairwise fun first second => ∀ {a b : Links}, links?' first = some a →
      links?' second = some b → a.span.start ≤ b.span.start := by
  refine ((h.sorted hlinks).sublist hkept).imp_of_mem ?_
  intro first second hfirst hsecond hle a b ha hb
  obtain ⟨a', ha', hspan⟩ := c.exists_old_child h hlinks (hkept.subset hfirst) ha
  obtain ⟨b', hb', hspan'⟩ := c.exists_old_child h hlinks (hkept.subset hsecond) hb
  rw [hspan, hspan']
  exact hle ha' hb'

theorem inside_of_old (hlinks : links? id = some links) (hparent : links.parent ≠ none)
    (hchild : child ∈ links.children) (hnew : links?' child = some new) :
    links.span.encloses new.span := by
  obtain ⟨below, hbelow, hspan⟩ := c.exists_old_child h hlinks hchild hnew
  rw [hspan]
  exact h.inside hlinks hparent hchild hbelow

theorem apart_of_old {first second : NodeId} {a b : Links} (hlinks : links? id = some links)
    (hfirst : first ∈ links.children) (hsecond : second ∈ links.children) (hne : first ≠ second)
    (ha : links?' first = some a) (hb : links?' second = some b) : ¬ a.span.encloses b.span := by
  obtain ⟨a', ha', hspan⟩ := c.exists_old_child h hlinks hfirst ha
  obtain ⟨b', hb', hspan'⟩ := c.exists_old_child h hlinks hsecond hb
  rw [hspan, hspan']
  exact h.apart hlinks hfirst hsecond hne ha' hb'

/-- Among the children of the parent, the new node encloses none, since it would have adopted it,
and is enclosed by none. -/
theorem apart_of_parent {first second : NodeId} {a b : Links}
    (hnone : ∀ {child : NodeId} {below : Links}, child ∈ above.children →
      links? child = some below → ¬ below.span.encloses span)
    (hfirst : first ∈ children) (hsecond : second ∈ children) (hne : first ≠ second)
    (ha : links?' first = some a) (hb : links?' second = some b) : ¬ a.span.encloses b.span := by
  rcases c.mem_children.mp hfirst with rfl | ⟨hfirst, hkept⟩
  · rcases c.mem_children.mp hsecond with rfl | ⟨hsecond, hkept⟩
    · exact absurd rfl hne
    · obtain rfl := Option.some.inj (c.fresh_eq.symm.trans ha)
      obtain ⟨b', hb', hspan⟩ := c.exists_old_child h c.parent_eq hsecond hb
      rw [hspan]
      exact fun hencloses => hkept ((c.mem_adopted hsecond hb').mpr hencloses)
  · rcases c.mem_children.mp hsecond with rfl | ⟨hsecond, -⟩
    · obtain rfl := Option.some.inj (c.fresh_eq.symm.trans hb)
      obtain ⟨a', ha', hspan⟩ := c.exists_old_child h c.parent_eq hfirst ha
      rw [hspan]
      exact hnone hfirst ha'
    · exact c.apart_of_old h c.parent_eq hfirst hsecond hne ha hb

end

theorem forest (c : NewNode links? links?' u span fresh parent above adopted children)
    (h : Forest root? links?) (hunit : above.unit = u)
    (hinside : above.parent ≠ none → above.span.encloses span)
    (hnone : ∀ {child : NodeId} {below : Links}, child ∈ above.children →
      links? child = some below → ¬ below.span.encloses span) :
    Forest root? links?' where
  root := by
    intro v id hroot
    obtain ⟨links, hlinks, hv, hparent⟩ := h.root hroot
    have hadopted : id ∉ adopted := by
      apply c.not_mem_adopted h hlinks
      rw [hparent]
      exact (Option.some_ne_none parent).symm
    exact ⟨_, c.kept hlinks, hv, (if_neg hadopted).trans hparent⟩
  top := by
    intro id new hnew hparent
    rcases c.cases hnew with ⟨-, rfl⟩ | ⟨links, hlinks, rfl⟩
    · cases hparent
    · dsimp only at hparent
      split at hparent
      · cases hparent
      · show root? links.unit = some id
        exact h.top hlinks hparent
  listed := by
    intro id q new hnew hparent
    rcases c.cases hnew with ⟨rfl, rfl⟩ | ⟨links, hlinks, rfl⟩
    · cases hparent
      exact c.lists_fresh
    · dsimp only at hparent
      split at hparent
      · rename_i hadopted
        cases hparent
        exact ⟨_, c.fresh_eq, hadopted⟩
      · rename_i hadopted
        exact (c.lists_or (h.listed hlinks hparent)).resolve_right fun hboth => hadopted hboth.2
  child := by
    intro id child new hnew hchild
    rcases c.cases hnew with ⟨rfl, rfl⟩ | ⟨links, hlinks, rfl⟩
    · exact c.child_of_fresh h hchild hunit
    · dsimp only at hchild ⊢
      split at hchild
      · rename_i hid
        subst hid
        obtain rfl := Option.some.inj (hlinks.symm.trans c.parent_eq)
        rw [hunit]
        exact c.child_of_parent h hchild hunit
      · rename_i hid
        exact c.child_of_other h hlinks hid hchild
  once := by
    intro id new hnew
    rcases c.cases hnew with ⟨-, rfl⟩ | ⟨links, hlinks, rfl⟩
    · exact (h.once c.parent_eq).sublist c.adopted_sublist
    · dsimp only
      split
      · exact c.once (h.once c.parent_eq) (c.fresh_not_mem h c.parent_eq)
      · exact h.once hlinks
  sorted := by
    intro id new hnew
    rcases c.cases hnew with ⟨-, rfl⟩ | ⟨links, hlinks, rfl⟩
    · exact c.sorted_of_sublist h c.parent_eq c.adopted_sublist
    · dsimp only
      split
      · exact c.sorted
      · exact c.sorted_of_sublist h hlinks (List.Sublist.refl _)
  inside := by
    intro id child new below hnew hparent hchild hbelow
    rcases c.cases hnew with ⟨-, rfl⟩ | ⟨links, hlinks, rfl⟩
    · have hmem := c.adopted_sublist.subset hchild
      obtain ⟨old, hold, hspan⟩ := c.exists_old_child h c.parent_eq hmem hbelow
      rw [hspan]
      exact (c.mem_adopted hmem hold).mp hchild
    · have hold := c.parent_ne_none h hlinks hparent
      show links.span.encloses below.span
      dsimp only at hchild
      split at hchild
      · rename_i hid
        subst hid
        obtain rfl := Option.some.inj (hlinks.symm.trans c.parent_eq)
        rcases c.mem_children.mp hchild with rfl | ⟨hmem, -⟩
        · obtain rfl := Option.some.inj (c.fresh_eq.symm.trans hbelow)
          exact hinside hold
        · exact c.inside_of_old h hlinks hold hmem hbelow
      · exact c.inside_of_old h hlinks hold hchild hbelow
  apart := by
    intro id first second new a b hnew hfirst hsecond hne ha hb
    rcases c.cases hnew with ⟨-, rfl⟩ | ⟨links, hlinks, rfl⟩
    · exact c.apart_of_old h c.parent_eq (c.adopted_sublist.subset hfirst)
        (c.adopted_sublist.subset hsecond) hne ha hb
    · dsimp only at hfirst hsecond
      split at hfirst
      · rename_i hid
        rw [if_pos hid] at hsecond
        exact c.apart_of_parent h hnone hfirst hsecond hne ha hb
      · rename_i hid
        rw [if_neg hid] at hsecond
        exact c.apart_of_old h hlinks hfirst hsecond hne ha hb
  reached := by
    intro id new hnew
    rcases c.cases hnew with ⟨rfl, rfl⟩ | ⟨links, hlinks, rfl⟩
    · obtain ⟨root, hroot, hreached⟩ := h.reached c.parent_eq
      exact ⟨root, hunit ▸ hroot, (c.reached hreached).tail c.lists_fresh⟩
    · obtain ⟨root, hroot, hreached⟩ := h.reached hlinks
      exact ⟨root, hroot, c.reached hreached⟩

end NewNode

end SymbolNav
