import SymbolNav.Proofs.Draft.Planting

/-!
# Every draft is a forest

The moves that touch the trees of a draft are of the two kinds that grow a forest. A unit with a
text brings a root. A node is added below the innermost node that encloses it: the search for this
node goes down as long as a child encloses the new span, and in a forest it comes to an end, so
nothing below its end encloses the span. The spans themselves may be anything, since enclosing is an
order on them also where they are upside down or lie outside the text.
-/

namespace SymbolNav

/-- What ties a node of a draft to the others. -/
def Links.ofNode (n : UnitId × SyntaxNode) : Links :=
  ⟨n.1, n.2.span, n.2.parent, n.2.children⟩

namespace Draft

def links? (d : Draft) (id : NodeId) : Option Links :=
  (d.nodes.map Links.ofNode)[id.index]?

def root? (d : Draft) (u : UnitId) : Option NodeId :=
  d.trees[u.index]?.bind (·.2)

/-- The trees of a draft form a forest, and the units with a root are those with a text. -/
structure IsForest (d : Draft) : Prop where
  forest : Forest d.root? d.links?
  rooted : ∀ tree ∈ d.trees, tree.1.isSome = tree.2.isSome

variable {d d' : Draft} {u : UnitId} {id parent : NodeId} {span : Span} {links above : Links}

theorem links?_eq_some :
    d.links? id = some links ↔ ∃ n, d.nodes[id.index]? = some n ∧ Links.ofNode n = links := by
  rw [links?, List.getElem?_map, Option.map_eq_some_iff]

theorem root?_eq_bind : d.root? u = d.units[u.index]?.bind (·.ast) := by
  rw [root?, trees, List.getElem?_map, Option.bind_map]
  rfl

theorem links?_next : d.links? ⟨d.nodes.length⟩ = none := by
  simp [links?]

theorem spanIs_eq (h : d.links? id = some links) (p : Span → Bool) :
    d.spanIs p id = p links.span := by
  obtain ⟨n, hn, rfl⟩ := links?_eq_some.mp h
  rw [spanIs, hn]
  rfl

theorem startOf_eq (h : d.links? id = some links) : d.startOf id = links.span.start := by
  obtain ⟨n, hn, rfl⟩ := links?_eq_some.mp h
  rw [startOf, hn]
  rfl

theorem IsForest.of_eq (h : d.IsForest) (hlinks : d'.links? = d.links?)
    (htrees : d'.trees = d.trees) : d'.IsForest := by
  have hroots : d'.root? = d.root? := by
    funext u
    rw [root?, htrees]
    rfl
  exact ⟨by rw [hroots, hlinks]; exact h.forest, by rw [htrees]; exact h.rooted⟩

theorem links?_eq_of_nodes (h : d'.nodes = d.nodes) : d'.links? = d.links? := by
  funext id
  rw [links?, h]
  rfl

/-! ### A new unit -/

theorem length_trees : d.trees.length = d.units.length :=
  List.length_map _

theorem trees_addUnit {path : Path} {kind : UnitKind} {text : Option String}
    (hrun : (addUnit path kind text).run d = .ok (u, d')) :
    d'.trees = d.trees ++ [(text, text.map fun _ => ⟨d.nodes.length⟩)] := by
  cases hrun
  cases text with
  | none => exact List.map_append
  | some text => exact List.map_append

theorem rooted_addUnit {path : Path} {kind : UnitKind} {text : Option String}
    (hrun : (addUnit path kind text).run d = .ok (u, d'))
    (h : ∀ tree ∈ d.trees, tree.1.isSome = tree.2.isSome) :
    ∀ tree ∈ d'.trees, tree.1.isSome = tree.2.isSome := by
  intro tree hmem
  rw [trees_addUnit hrun] at hmem
  rcases List.mem_append.mp hmem with hold | hnew
  · exact h tree hold
  · obtain rfl := List.mem_singleton.mp hnew
    exact Option.isSome_map.symm

theorem root?_addUnit {path : Path} {kind : UnitKind} {text : Option String}
    (hrun : (addUnit path kind text).run d = .ok (u, d')) (v : UnitId) :
    d'.root? v =
      if v.index = d.units.length then text.map fun _ => ⟨d.nodes.length⟩ else d.root? v := by
  rw [root?, trees_addUnit hrun, getElem?_concat, length_trees]
  split
  · rfl
  · rfl

/-- A library has no tree, so its unit changes nothing in the forest. -/
theorem forest_addUnit_none {path : Path} {kind : UnitKind}
    (hrun : (addUnit path kind none).run d = .ok (u, d')) (h : Forest d.root? d.links?) :
    Forest d'.root? d'.links? := by
  have hroots : d'.root? = d.root? := by
    funext v
    rw [root?_addUnit hrun]
    split
    · rename_i hv
      rw [root?, hv, ← length_trees, List.getElem?_length]
      rfl
    · rfl
  have hnodes : d'.nodes = d.nodes := by
    cases hrun
    exact List.append_nil _
  rw [hroots, links?_eq_of_nodes hnodes]
  exact h

theorem newRoot_addUnit {path : Path} {kind : UnitKind} {text : String}
    (hrun : (addUnit path kind (some text)).run d = .ok (u, d')) :
    NewRoot d.root? d'.root? d.links? d'.links? ⟨d.units.length⟩ ⟨d.nodes.length⟩
      (whole text.toList) where
  no_root := by
    rw [root?, ← length_trees, List.getElem?_length]
    rfl
  no_node := links?_next
  root_eq := by
    rintro ⟨i⟩
    simp only [root?_addUnit hrun, UnitId.mk.injEq, Option.map_some]
  links_eq := by
    rintro ⟨i⟩
    cases hrun
    show ((d.nodes ++ [_]).map Links.ofNode)[i]? = _
    rw [List.map_append, List.map_singleton, getElem?_concat, List.length_map]
    simp only [NodeId.mk.injEq]
    rfl

theorem forest_addUnit {path : Path} {kind : UnitKind} {text : Option String}
    (hrun : (addUnit path kind text).run d = .ok (u, d')) (h : Forest d.root? d.links?) :
    Forest d'.root? d'.links? := by
  cases text with
  | none => exact forest_addUnit_none hrun h
  | some text => exact (newRoot_addUnit hrun).forest h

/-! ### A new node -/

/-- The children that a new node with the span adopts, and those that stay with the parent. -/
def adoptedBy (d : Draft) (span : Span) (above : Links) : List NodeId :=
  above.children.filter (d.spanIs span.encloses)

def keptFrom (d : Draft) (span : Span) (above : Links) : List NodeId :=
  above.children.filter fun child => !d.spanIs span.encloses child

/-- A change of one node, seen in the links. -/
theorem getElem?_map_modify (nodes : List (UnitId × SyntaxNode)) (j i : Nat)
    {f : UnitId × SyntaxNode → UnitId × SyntaxNode} {g : Links → Links}
    (h : ∀ n, Links.ofNode (f n) = g (Links.ofNode n)) :
    ((nodes.modify j f).map Links.ofNode)[i]? =
      ((nodes.map Links.ofNode)[i]?).map fun links => if j = i then g links else links := by
  rw [List.getElem?_map, List.getElem?_modify, List.getElem?_map]
  cases nodes[i]? with
  | none => rfl
  | some n =>
      by_cases hji : j = i
      · simp [hji, h]
      · simp [hji]

/-- What the adopted children are told, one after the other. -/
theorem getElem?_map_foldl_adopt (fresh : NodeId) (adopted : List NodeId)
    (nodes : List (UnitId × SyntaxNode)) (i : Nat) :
    ((adopted.foldl (fun nodes child => nodes.modify child.index fun n =>
      (n.1, { n.2 with parent := some fresh })) nodes).map Links.ofNode)[i]? =
      ((nodes.map Links.ofNode)[i]?).map fun links =>
        ⟨links.unit, links.span, if ⟨i⟩ ∈ adopted then some fresh else links.parent,
          links.children⟩ := by
  induction adopted generalizing nodes with
  | nil =>
      simp only [List.not_mem_nil, if_false]
      exact Option.map_id'.symm
  | cons child adopted ih =>
      rw [List.foldl_cons, ih, getElem?_map_modify nodes child.index i
        (g := fun links => ⟨links.unit, links.span, some fresh, links.children⟩) fun _ => rfl,
        Option.map_map]
      congr 1
      funext links
      obtain ⟨j⟩ := child
      by_cases hji : j = i
      · simp [hji]
      · simp [hji, Ne.symm hji]

theorem length_foldl_adopt (fresh : NodeId) (adopted : List NodeId)
    (nodes : List (UnitId × SyntaxNode)) :
    (adopted.foldl (fun nodes child => nodes.modify child.index fun n =>
      (n.1, { n.2 with parent := some fresh })) nodes).length = nodes.length := by
  induction adopted generalizing nodes with
  | nil => rfl
  | cons child adopted ih => rw [List.foldl_cons, ih, List.length_modify]

/-- The new node is there and its children know it; the parent does not list it yet. -/
def grown (d : Draft) (u : UnitId) (parent : NodeId) (kind : NodeKind) (span : Span)
    (adopted : List NodeId) : Draft :=
  { d with
    nodes := adopted.foldl (fun nodes child => nodes.modify child.index fun n =>
        (n.1, { n.2 with parent := some ⟨d.nodes.length⟩ })) d.nodes ++
      [(u, { kind, span, parent := some parent, children := adopted })] }

/-- The children of the parent, with the new node at its place. -/
def childrenWith (d : Draft) (u : UnitId) (parent : NodeId) (kind : NodeKind) (span : Span)
    (above : Links) : List NodeId :=
  (d.keptFrom span above ++ [NodeId.mk d.nodes.length]).mergeSort fun a b =>
    (d.grown u parent kind span (d.adoptedBy span above)).startOf a ≤
      (d.grown u parent kind span (d.adoptedBy span above)).startOf b

theorem insertBelow_eq (habove : d.links? parent = some above) (kind : NodeKind) :
    d.insertBelow u parent kind span =
      { d.grown u parent kind span (d.adoptedBy span above) with
        nodes := (d.grown u parent kind span (d.adoptedBy span above)).nodes.modify parent.index
          fun n => (n.1, { n.2 with children := d.childrenWith u parent kind span above }) } := by
  obtain ⟨n, hn, rfl⟩ := links?_eq_some.mp habove
  rw [insertBelow, hn, List.partition_eq_filter_filter]
  rfl

theorem links?_grown (kind : NodeKind) (adopted : List NodeId) (id : NodeId) :
    (d.grown u parent kind span adopted).links? id =
      if id = ⟨d.nodes.length⟩ then some ⟨u, span, some parent, adopted⟩
      else (d.links? id).map fun links =>
        ⟨links.unit, links.span, if id ∈ adopted then some ⟨d.nodes.length⟩ else links.parent,
          links.children⟩ := by
  obtain ⟨i⟩ := id
  rw [links?, grown, List.map_append, List.map_singleton, getElem?_concat, List.length_map,
    length_foldl_adopt, getElem?_map_foldl_adopt]
  simp only [NodeId.mk.injEq]
  rfl

theorem links?_insertBelow (habove : d.links? parent = some above) (kind : NodeKind) (id : NodeId) :
    (d.insertBelow u parent kind span).links? id =
      ((d.grown u parent kind span (d.adoptedBy span above)).links? id).map fun links =>
        if parent.index = id.index then
          ⟨links.unit, links.span, links.parent, d.childrenWith u parent kind span above⟩
        else links := by
  rw [insertBelow_eq habove, links?]
  exact getElem?_map_modify _ _ _ fun _ => rfl

/-- The parent is an old node. -/
theorem index_ne_length (habove : d.links? parent = some above) :
    parent.index ≠ d.nodes.length := by
  obtain ⟨n, hn, -⟩ := links?_eq_some.mp habove
  exact Nat.ne_of_lt (List.getElem?_eq_some_iff.mp hn).1

/-- The order of the children is by starts that the last change leaves as they are. -/
theorem startOf_grown (habove : d.links? parent = some above) {kind : NodeKind}
    (hlinks : (d.insertBelow u parent kind span).links? id = some links) :
    (d.grown u parent kind span (d.adoptedBy span above)).startOf id = links.span.start := by
  rw [links?_insertBelow habove] at hlinks
  obtain ⟨old, hold, rfl⟩ := Option.map_eq_some_iff.mp hlinks
  rw [startOf_eq hold]
  split <;> rfl

theorem pairwise_childrenWith (kind : NodeKind) :
    (d.childrenWith u parent kind span above).Pairwise fun a b =>
      (d.grown u parent kind span (d.adoptedBy span above)).startOf a ≤
        (d.grown u parent kind span (d.adoptedBy span above)).startOf b := by
  refine (List.pairwise_mergeSort ?_ ?_ _).imp of_decide_eq_true
  · intro a b c hab hbc
    exact decide_eq_true (Nat.le_trans (of_decide_eq_true hab) (of_decide_eq_true hbc))
  · intro a b
    simpa using Nat.le_total _ _

theorem newNode_insertBelow (habove : d.links? parent = some above) (kind : NodeKind) :
    NewNode d.links? (d.insertBelow u parent kind span).links? u span ⟨d.nodes.length⟩ parent above
      (d.adoptedBy span above) (d.childrenWith u parent kind span above) where
  no_node := links?_next
  parent_eq := habove
  adopted_sublist := List.filter_sublist
  mem_adopted := by
    intro child below hchild hbelow
    rw [adoptedBy, List.mem_filter, spanIs_eq hbelow]
    exact and_iff_right hchild
  mem_children := by
    intro child
    rw [childrenWith, List.mem_mergeSort, List.mem_append, List.mem_singleton, or_comm, keptFrom,
      adoptedBy, List.mem_filter, List.mem_filter]
    refine or_congr_right (and_congr_right fun hchild => ?_)
    rw [Bool.not_eq_true', not_and, Bool.not_eq_true]
    exact (imp_iff_right hchild).symm
  once := by
    intro hnodup hfresh
    rw [childrenWith, (List.mergeSort_perm _ _).nodup_iff, ← List.concat_eq_append]
    exact (hnodup.filter _).concat fun hmem => hfresh (List.mem_of_mem_filter hmem)
  sorted := by
    refine (pairwise_childrenWith kind).imp ?_
    intro first second hle a b ha hb
    rw [startOf_grown habove ha, startOf_grown habove hb] at hle
    exact hle
  links_eq := by
    intro id
    rw [links?_insertBelow habove, links?_grown]
    by_cases hid : id = ⟨d.nodes.length⟩
    · subst hid
      rw [if_pos rfl, if_pos rfl, Option.map_some, if_neg (index_ne_length habove)]
    · rw [if_neg hid, if_neg hid, Option.map_map]
      congr 1
      funext links
      by_cases hparent : id = parent
      · subst hparent
        rw [Function.comp_apply, if_pos rfl, if_pos rfl]
      · have hindex : parent.index ≠ id.index := by
          intro heq
          exact hparent (NodeId.index_injective heq.symm)
        rw [Function.comp_apply, if_neg hindex, if_neg hparent]

/-! ### The place of a new node -/

theorem enclosingNode_of_walk {moves : Nat} {root : NodeId}
    (h : walk (d.enclosingChild? span) moves root = .ok id) :
    d.enclosingNode span moves root = id := by
  induction moves generalizing root with
  | zero =>
      rw [walk] at h
      split at h
      · exact Except.ok.inj h
      · cases h
  | succ moves ih =>
      rw [walk] at h
      rw [enclosingNode]
      split at h
      · rename_i hstop
        rw [hstop]
        exact Except.ok.inj h
      · rename_i child hmove
        rw [hmove]
        exact ih h

theorem enclosingChild?_eq (hlinks : d.links? id = some links) :
    d.enclosingChild? span id = links.children.find? (d.spanIs (·.encloses span)) := by
  obtain ⟨n, hn, rfl⟩ := links?_eq_some.mp hlinks
  rw [enclosingChild?, hn]
  rfl

theorem lists_of_enclosingChild? {child : NodeId} (h : d.enclosingChild? span id = some child) :
    Lists d.links? id child := by
  obtain ⟨n, hn, hfound⟩ := Option.bind_eq_some_iff.mp h
  exact ⟨_, links?_eq_some.mpr ⟨n, hn, rfl⟩, List.mem_of_find?_eq_some hfound⟩

/-- A node that a new node of the unit may go below: unless it is the root, it encloses the span. -/
def Admits (d : Draft) (u : UnitId) (span : Span) (id : NodeId) : Prop :=
  ∃ links, d.links? id = some links ∧ links.unit = u ∧
    (links.parent ≠ none → links.span.encloses span)

theorem Admits.enclosingChild? {child : NodeId} (h : Forest d.root? d.links?)
    (hadmits : d.Admits u span id) (hchild : d.enclosingChild? span id = some child) :
    d.Admits u span child := by
  obtain ⟨links, hlinks, hunit, -⟩ := hadmits
  rw [enclosingChild?_eq hlinks] at hchild
  obtain ⟨below, hbelow, hsame, -⟩ := h.child hlinks (List.mem_of_find?_eq_some hchild)
  refine ⟨below, hbelow, hsame.trans hunit, fun _ => ?_⟩
  have hencloses := List.find?_some hchild
  rwa [spanIs_eq hbelow] at hencloses

theorem Admits.leads {moves : Nat} {stop : NodeId} (h : Forest d.root? d.links?)
    (hadmits : d.Admits u span id) (hleads : Leads (d.enclosingChild? span) moves id stop) :
    d.Admits u span stop := by
  induction hleads with
  | stop => exact hadmits
  | move hmove _ ih => exact ih (hadmits.enclosingChild? h hmove)

/-- Where the search stops, no child encloses the span. -/
theorem not_encloses_of_stop {child : NodeId} {below : Links} (hlinks : d.links? id = some links)
    (hstop : d.enclosingChild? span id = none) (hchild : child ∈ links.children)
    (hbelow : d.links? child = some below) : ¬ below.span.encloses span := by
  rw [enclosingChild?_eq hlinks, List.find?_eq_none] at hstop
  have hnot := hstop child hchild
  rwa [spanIs_eq hbelow] at hnot

/-- In a forest the search for the innermost node that encloses a span comes to an end. -/
theorem leads_enclosingNode (h : Forest d.root? d.links?) (span : Span) (root : NodeId) :
    ∃ moves, Leads (d.enclosingChild? span) moves root
      (d.enclosingNode span d.nodes.length root) := by
  have hplaces : ∀ id, (d.enclosingChild? span id).isSome → id.index < d.nodes.length := by
    intro id hsome
    obtain ⟨n, hn⟩ := Option.isSome_iff_exists.mp (Option.isSome_of_isSome_bind hsome)
    exact (List.getElem?_eq_some_iff.mp hn).1
  obtain ⟨moves, stop, hleads⟩ := (h.freeOfCircles root).exists_leads NodeId.index_injective
    lists_of_enclosingChild? hplaces
  rw [enclosingNode_of_walk (hleads.walk_eq_of_places NodeId.index_injective hplaces)]
  exact ⟨moves, hleads⟩

theorem forest_insertBelow (h : Forest d.root? d.links?) {root : NodeId}
    (hroot : d.root? u = some root) (kind : NodeKind) (span : Span) :
    Forest d.root?
      (d.insertBelow u (d.enclosingNode span d.nodes.length root) kind span).links? := by
  obtain ⟨moves, hleads⟩ := leads_enclosingNode h span root
  obtain ⟨top, htop, hunit, hparent⟩ := h.root hroot
  have hadmits : d.Admits u span root := ⟨top, htop, hunit, fun hsome => absurd hparent hsome⟩
  obtain ⟨above, habove, hsame, hinside⟩ := hadmits.leads h hleads
  refine (newNode_insertBelow habove kind).forest h hsame hinside ?_
  intro child below hchild hbelow
  exact not_encloses_of_stop habove hleads.next_eq_none hchild hbelow

theorem run_demand {α : Type} {error : DraftError} {value : Option α} {a : α}
    (hrun : (demand error value).run d = .ok (a, d')) : value = some a ∧ d' = d := by
  cases value with
  | none => cases hrun
  | some b =>
      cases hrun
      exact ⟨rfl, rfl⟩

theorem run_unitAt {unit : UnitSnapshot} (hrun : (unitAt u).run d = .ok (unit, d')) :
    d.units[u.index]? = some unit ∧ d' = d :=
  run_demand hrun

theorem run_unitAt_of_eq_some {unit : UnitSnapshot} (h : d.units[u.index]? = some unit) :
    (unitAt u).run d = .ok (unit, d) := by
  show (demand .outOfRange d.units[u.index]?).run d = _
  rw [h]
  rfl

theorem run_modifyUnit {unit : UnitSnapshot} (h : d.units[u.index]? = some unit)
    (f : UnitSnapshot → UnitSnapshot) :
    (modifyUnit u f).run d = .ok ((), { d with units := d.units.modify u.index f }) :=
  run_bind_eq_ok.mpr ⟨unit, d, run_unitAt_of_eq_some h, rfl⟩

theorem run_addNode {kind : NodeKind} (hrun : (addNode u kind span).run d = .ok (id, d')) :
    ∃ root, d.root? u = some root ∧
      d' = d.insertBelow u (d.enclosingNode span d.nodes.length root) kind span := by
  obtain ⟨unit, atUnit, hunit, hrest⟩ := run_bind_eq_ok.mp hrun
  obtain ⟨root, atRoot, hroot, hset⟩ := run_bind_eq_ok.mp hrest
  obtain ⟨hast, rfl⟩ := run_demand hroot
  obtain ⟨hfound, rfl⟩ := run_unitAt hunit
  cases hset
  refine ⟨root, ?_, rfl⟩
  rw [root?_eq_bind, hfound]
  exact hast

/-! ### All moves -/

theorem IsForest.rest (h : d.IsForest) (hnodes : d'.nodes = d.nodes) (htrees : d'.trees = d.trees) :
    d'.IsForest :=
  h.of_eq (links?_eq_of_nodes hnodes) htrees

theorem keeps_isForest_addDefinition (definition : Definition) :
    Keeps IsForest (addDefinition definition) := by
  intro d id d' hrun h
  cases hrun
  exact h.rest rfl rfl

theorem stable_isForest : Stable IsForest where
  unit := by
    intro path kind text d u d' hrun h
    exact ⟨forest_addUnit hrun h.forest, rooted_addUnit hrun h.rooted⟩
  definition definition _ := keeps_isForest_addDefinition definition
  tags := by
    intro u document
    refine (Keeps.unitAt u).bind fun _ => Keeps.modify fun d h => ?_
    refine h.rest rfl ?_
    show (d.units.modify _ _).map _ = _
    exact map_modify_of_forall fun _ => rfl
  node := by
    intro u kind span d id d' hrun h
    obtain ⟨root, hroot, rfl⟩ := run_addNode hrun
    exact ⟨forest_insertBelow h.forest hroot kind span, h.rooted⟩
  kind := by
    intro id kind d _ d' hrun h
    cases hrun
    refine h.of_eq ?_ rfl
    funext id
    exact congrArg (·[id.index]?) (map_modify_of_forall fun _ => rfl)
  rest := by
    intro d d' hnodes hsources _ h
    exact h.rest hnodes (by rw [trees_eq_map_sources, hsources, trees_eq_map_sources])

theorem isForest_nil : IsForest {} := by
  refine ⟨?_, ?_⟩
  · constructor <;> intros <;> contradiction
  · intro tree hmem
    cases hmem

/-- Whatever the steps are, what they build is a forest. -/
theorem isForest_of_build {steps : List Step} (h : build steps = .ok d) : d.IsForest :=
  stable_isForest.invariant.run keeps_isForest_addDefinition steps (fun _ _ _ _ => trivial) h
    isForest_nil

end Draft

end SymbolNav
