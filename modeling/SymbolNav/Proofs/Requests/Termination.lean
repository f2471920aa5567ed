import SymbolNav.Proofs.Navigation.Circles
import SymbolNav.Proofs.Requests.Namespaces

/-!
# Requests that come to an end

A request follows links of the snapshot in several places: down the syntax tree and the tags to what
stands at its position, up to a class or a style sheet, along a dotted name, and through the trees of
all units that are searched for occurrences. Where these links lead round in no circle and the
fallbacks of the resolver come to an end, so do both requests, for every document, position and new
name. A single node that lists itself as a child is enough to keep a request from ever being
answered.
-/

namespace SymbolNav

/-- The fallbacks of the resolver come to an end for every node of a syntax tree. -/
def Context.FallbacksEnd (ctx : Context) : Prop :=
  ∀ fallback ∈ ctx.resolver.fallbacks, ∀ id, ctx.project.InTree id →
    (fallback ctx.project id).Ends

namespace Project

variable {p : Project} {u : UnitId} {offset : Nat} {i : NodeId}

theorem inTree_of_offsetTarget (h : p.offsetTarget u offset = .ok (.node i)) : p.InTree i := by
  obtain ⟨root, hast, hfound⟩ := innermostNode_of_offsetTarget h
  exact ⟨u, root, hast, (below_of_innermostNode hfound).1⟩

theorem inTree_of_markupTarget (h : p.markupTarget u offset = .ok (.script i)) : p.InTree i := by
  obtain ⟨root, hast, hfound⟩ := innermostNode_of_markupTarget h
  exact ⟨u, root, hast, (below_of_innermostNode hfound).1⟩

end Project

namespace Context

variable {ctx : Context} {u : UnitId} {offset : Nat} {i root : NodeId} {targets : List DefId}
variable {document : SourceDocument} {position : Position} {newName : String}

theorem checkpoint_ends : ctx.checkpoint.Ends := by
  unfold checkpoint
  split
  · exact Or.inl rfl
  · exact Answer.ends_ok ()

theorem identifier_ends (hfallbacks : ctx.FallbacksEnd) (hi : ctx.project.InTree i) :
    (ctx.resolver.identifier ctx.project i).Ends :=
  Resolver.identifier_ends fun fallback hfallback => hfallbacks fallback hfallback i hi

theorem forNavigation_ends (h : ctx.project.Acyclic) (hfallbacks : ctx.FallbacksEnd)
    (hi : ctx.project.InTree i) : (ctx.resolver.forNavigation ctx.project i).Ends := by
  unfold Resolver.forNavigation
  split
  · exact Answer.ends_ok none
  · dsimp only
    split
    · exact (identifier_ends hfallbacks hi).bind fun _ _ => Answer.ends_ok _
    · exact (h.keywordTarget_ends hi).bind fun _ _ => Answer.ends_ok _
    · exact Answer.ends_ok none

theorem forRename_ends (hfallbacks : ctx.FallbacksEnd) (hi : ctx.project.InTree i) :
    (ctx.resolver.forRename ctx.project i).Ends := by
  unfold Resolver.forRename
  split
  · exact Answer.ends_ok none
  · split
    · exact Answer.ends_ok _
    · split
      · exact identifier_ends hfallbacks hi
      · exact Answer.ends_ok none

theorem nodeOccurrence_ends {node : SyntaxNode} (hfallbacks : ctx.FallbacksEnd)
    (hi : ctx.project.InTree i) : (ctx.nodeOccurrence targets i node).Ends := by
  unfold nodeOccurrence
  split
  · exact (identifier_ends hfallbacks hi).bind fun _ _ => Answer.ends_ok _
  · exact Answer.ends_ok []

/-- The search of a tree goes no deeper than there are nodes. -/
theorem treeOccurrences_ends (h : FreeOfCircles ctx.project.IsChild root)
    (hfallbacks : ctx.FallbacksEnd) (hroot : ctx.project.InTree root) :
    (ctx.treeOccurrences targets ctx.project.snapshot.nodes.length root).Ends := by
  refine FreeOfCircles.done
    (fun depth i => ctx.project.InTree i → (ctx.treeOccurrences targets depth i).Ends)
    NodeId.index_injective ?_ ?_ h hroot
  · intro depth i houtside _
    have hnode : ctx.project.node? i = none := List.getElem?_eq_none houtside
    unfold treeOccurrences
    rw [hnode]
    exact Answer.ends_ok []
  · intro depth i ih hi
    unfold treeOccurrences
    cases hnode : ctx.project.node? i with
    | none => exact Answer.ends_ok []
    | some node =>
        refine (nodeOccurrence_ends hfallbacks hi).bind fun own _ => ?_
        refine (Answer.ends_mapM fun child hchild => ?_).bind fun below _ => Answer.ends_ok _
        obtain ⟨u, root, hast, hbelow⟩ := hi
        have hlink : ctx.project.IsChild i child := ⟨node, hnode, hchild⟩
        exact ih child hlink ⟨u, root, hast, hbelow.tail hlink⟩

theorem occurrences_ends {target : Definition} (h : ctx.project.Acyclic)
    (hfallbacks : ctx.FallbacksEnd) : (ctx.occurrences u targets target).Ends := by
  refine Answer.Ends.bind ?_ fun script _ => Answer.ends_ok _
  unfold scriptOccurrences
  split
  · exact Answer.ends_ok []
  · rename_i root hast
    exact treeOccurrences_ends (h.children hast) hfallbacks ⟨u, root, hast, .refl⟩

theorem scanUnit_ends {id : DefId} {target : Definition} {plan : RenamePlan}
    (h : ctx.project.Acyclic) (hfallbacks : ctx.FallbacksEnd) :
    (ctx.scanUnit id target newName plan u).Ends := by
  refine checkpoint_ends.bind fun _ _ => ?_
  split
  · exact Answer.ends_ok plan
  · refine (occurrences_ends h hfallbacks).bind fun spans _ => ?_
    exact checkpoint_ends.bind fun _ _ => Answer.ends_ok _

theorem renameDefinition_ends {d : DefId} (h : ctx.project.Acyclic)
    (hfallbacks : ctx.FallbacksEnd) : (ctx.renameDefinition d newName).Ends := by
  unfold renameDefinition
  dsimp only
  split
  · exact Answer.ends_ok _
  · split
    · exact Answer.ends_ok _
    · refine Answer.Ends.bind ?_ fun plan _ => Answer.ends_ok _
      exact Answer.ends_foldlM (fun _ _ _ => scanUnit_ends h hfallbacks) {}

theorem scriptRenameTarget_ends (h : ctx.project.Acyclic) (hfallbacks : ctx.FallbacksEnd) :
    (ctx.scriptRenameTarget u offset).Ends := by
  refine h.offsetTarget_ends.bind fun place hplace => ?_
  cases place with
  | node i =>
      have hi := Project.inTree_of_offsetTarget hplace
      refine (h.isInStyleBlock_ends hi).bind fun inStyle _ => ?_
      cases inStyle with
      | true => exact Answer.ends_ok _
      | false => exact (forRename_ends hfallbacks hi).bind fun _ _ => Answer.ends_ok _
  | docComment index comment => exact Answer.ends_ok _
  | nothing => exact Answer.ends_ok _

theorem markupRenameTarget_ends (h : ctx.project.Acyclic) (hfallbacks : ctx.FallbacksEnd) :
    (ctx.markupRenameTarget u offset).Ends := by
  refine h.markupTarget_ends.bind fun found hfound => ?_
  cases found with
  | script i =>
      exact (forRename_ends hfallbacks (Project.inTree_of_markupTarget hfound)).bind
        fun _ _ => Answer.ends_ok _
  | definition d => exact Answer.ends_ok _
  | attributeValue tag index =>
      dsimp only
      split <;> exact Answer.ends_ok _
  | externalSource path => exact Answer.ends_ok _
  | nothing => exact Answer.ends_ok _
  | fallthrough => exact scriptRenameTarget_ends h hfallbacks

theorem renameFound_ends (h : ctx.project.Acyclic) (hfallbacks : ctx.FallbacksEnd)
    (found : RenameTarget) : (ctx.renameFound newName found).Ends := by
  cases found with
  | definition d => exact renameDefinition_ends h hfallbacks
  | unresolved => exact Answer.ends_ok _
  | nothing => exact Answer.ends_ok _

theorem rename_ends (h : ctx.project.Acyclic) (hfallbacks : ctx.FallbacksEnd) :
    (ctx.rename document position newName).Ends := by
  refine checkpoint_ends.bind fun _ _ => ?_
  split
  · exact Answer.ends_ok _
  · split
    · exact Answer.ends_ok _
    · refine checkpoint_ends.bind fun _ _ => ?_
      dsimp only
      split
      · exact (scriptRenameTarget_ends h hfallbacks).bind fun found _ =>
          checkpoint_ends.bind fun _ _ => renameFound_ends h hfallbacks found
      · exact (markupRenameTarget_ends h hfallbacks).bind fun found _ =>
          checkpoint_ends.bind fun _ _ => renameFound_ends h hfallbacks found

theorem nodeDefinition_ends (h : ctx.project.Acyclic) (hfallbacks : ctx.FallbacksEnd)
    (hi : ctx.project.InTree i) : (ctx.nodeDefinition i).Ends :=
  (forNavigation_ends h hfallbacks hi).bind fun _ _ =>
    checkpoint_ends.bind fun _ _ => Answer.ends_ok _

theorem scriptDefinition_ends (h : ctx.project.Acyclic) (hfallbacks : ctx.FallbacksEnd)
    (located : Located) : (ctx.scriptDefinition located position).Ends := by
  refine h.offsetTarget_ends.bind fun place hplace => ?_
  cases place with
  | docComment index comment =>
      dsimp only
      split
      · exact Answer.ends_ok _
      · exact checkpoint_ends.bind fun _ _ => Answer.ends_ok _
  | node i => exact nodeDefinition_ends h hfallbacks (Project.inTree_of_offsetTarget hplace)
  | nothing => exact Answer.ends_ok _

theorem definition_ends (h : ctx.project.Acyclic) (hfallbacks : ctx.FallbacksEnd) :
    (ctx.definition document position).Ends := by
  refine checkpoint_ends.bind fun _ _ => ?_
  split
  · exact Answer.ends_ok _
  · rename_i located _
    refine checkpoint_ends.bind fun _ _ => ?_
    split
    · exact scriptDefinition_ends h hfallbacks located
    · refine h.markupTarget_ends.bind fun found hfound => ?_
      cases found with
      | script i => exact nodeDefinition_ends h hfallbacks (Project.inTree_of_markupTarget hfound)
      | definition d => exact checkpoint_ends.bind fun _ _ => Answer.ends_ok _
      | externalSource path => exact Answer.ends_ok _
      | attributeValue tag index => exact Answer.ends_ok _
      | nothing => exact Answer.ends_ok _
      | fallthrough => exact scriptDefinition_ends h hfallbacks located

/-- A standard resolver asks for qualified names only. -/
theorem fallbacksEnd_of_standard (h : ctx.project.Acyclic) (hstandard : ctx.resolver = .standard) :
    ctx.FallbacksEnd := by
  intro fallback hfallback i hi
  rw [hstandard] at hfallback
  obtain rfl := List.mem_singleton.mp hfallback
  exact h.qualified_ends hi

/-- Where the links lead round in no circle, both requests are answered or given up, for every
document, position and name. -/
theorem requests_end_of_acyclic (h : ctx.project.Acyclic) (hfallbacks : ctx.FallbacksEnd)
    (document : SourceDocument) (position : Position) (newName : String) :
    (ctx.definition document position).Ends ∧ (ctx.rename document position newName).Ends :=
  ⟨definition_ends h hfallbacks, rename_ends h hfallbacks⟩

end Context

namespace LinkSample

/-! The qualified name `a.b` in a script, below a node for the whole text, and a tag inside a tag. -/

def outer : MarkupTag :=
  ⟨⟨some "s", "App"⟩, .component, ⟨0, 23⟩, ⟨0, 7⟩, ⟨1, 6⟩, some ⟨17, 22⟩, [], [], none, [⟨1⟩]⟩

def inner : MarkupTag :=
  ⟨⟨some "s", "Dot"⟩, .component, ⟨7, 15⟩, ⟨7, 15⟩, ⟨8, 13⟩, none, [], [], none, []⟩

def markup : MarkupDocument :=
  ⟨⟨"/p/App.mxml"⟩, [outer, inner], some ⟨0⟩⟩

def snapshot : Snapshot where
  units := [⟨⟨"/p/A.as"⟩, .script, some "a.b", some ⟨0⟩, .ready [], none, [], none⟩,
    ⟨⟨"/p/App.mxml"⟩, .markup, some "<s:App><s:Dot/></s:App>", none, .ready [], none, [],
      some markup⟩]
  nodes := [⟨.other, ⟨0, 3⟩, none, [⟨1⟩]⟩, ⟨.memberAccess ⟨2⟩ ⟨3⟩, ⟨0, 3⟩, some ⟨0⟩, [⟨2⟩, ⟨3⟩]⟩,
    ⟨.identifier "a", ⟨0, 1⟩, some ⟨1⟩, []⟩, ⟨.identifier "b", ⟨2, 3⟩, some ⟨1⟩, []⟩]

def context : Context where
  project := .ofSnapshot {} snapshot

/-- Children and operands come after a node, and its parent before it. -/
theorem links_in_order : ∀ i < 4, ∀ node ∈ snapshot.nodes[i]?,
    (∀ child ∈ node.children, i < child.index) ∧ (∀ parent ∈ node.parent, parent.index < i) := by
  decide

theorem operand_is_child {access operand : NodeId} (h : context.project.IsOperand access operand) :
    context.project.IsChild access operand := by
  obtain ⟨node, left, right, hnode, hkind, hoperand⟩ := h
  refine ⟨node, hnode, ?_⟩
  have hmem : node ∈ snapshot.nodes := List.mem_of_getElem? hnode
  simp only [snapshot, List.mem_cons, List.not_mem_nil, or_false] at hmem
  rcases hmem with rfl | rfl | rfl | rfl
  · cases hkind
  · cases hkind
    simpa using hoperand
  · cases hkind
  · cases hkind

theorem children_free (root : NodeId) : FreeOfCircles context.project.IsChild root := by
  refine .of_rank (fun i => 4 - i.index) ?_
  rintro i j ⟨node, hnode, hchild⟩
  have hi : i.index < 4 := (List.getElem?_eq_some_iff.mp hnode).1
  have hlt := (links_in_order i.index hi node hnode).1 j hchild
  omega

theorem acyclic : context.project.Acyclic where
  children _ := children_free _
  parents _ := by
    refine .of_rank NodeId.index ?_
    intro i j hparent
    obtain ⟨node, hnode, hparent⟩ := Option.bind_eq_some_iff.mp hparent
    have hi : i.index < 4 := (List.getElem?_eq_some_iff.mp hnode).1
    exact (links_in_order i.index hi node hnode).2 j hparent
  operands _ _ := (children_free _).mono operand_is_child
  tags {u m root tag} hm _ := by
    have hmarkup : m = markup := by
      obtain ⟨unit, hunit, hm⟩ := Option.bind_eq_some_iff.mp hm
      have hmem : unit ∈ snapshot.units := List.mem_of_getElem? hunit
      simp only [snapshot, List.mem_cons, List.not_mem_nil, or_false] at hmem
      rcases hmem with rfl | rfl
      · cases hm
      · exact (Option.some.inj hm).symm
    subst hmarkup
    refine .of_rank (fun i => 2 - i.index) ?_
    rintro i j ⟨tag, htag, hchild⟩
    have htags : ∀ i < 2, ∀ tag ∈ markup.tags[i]?, ∀ child ∈ tag.children, i < child.index := by
      decide
    have hi : i.index < 2 := (List.getElem?_eq_some_iff.mp htag).1
    have hlt := htags i.index hi tag htag j hchild
    omega

def document : SourceDocument :=
  ⟨⟨"/p/A.as"⟩, .script, "a.b"⟩

end LinkSample

theorem Context.requests_end_of_links_in_order :
    LinkSample.context.project.Acyclic ∧ LinkSample.context.FallbacksEnd ∧
      (LinkSample.context.definition LinkSample.document ⟨0, 2⟩).Ends ∧
      (LinkSample.context.rename LinkSample.document ⟨0, 2⟩ "c").Ends := by
  have hfallbacks := Context.fallbacksEnd_of_standard LinkSample.acyclic rfl
  exact ⟨LinkSample.acyclic, hfallbacks,
    Context.requests_end_of_acyclic LinkSample.acyclic hfallbacks LinkSample.document ⟨0, 2⟩ "c"⟩

namespace CircleSample

/-! A node that is its own child, parent and operand, and a tag that is its own child. -/

def tag : MarkupTag :=
  ⟨⟨none, "A"⟩, .component, ⟨0, 4⟩, ⟨0, 4⟩, ⟨1, 2⟩, none, [], [], none, [⟨0⟩]⟩

def markup : MarkupDocument :=
  ⟨⟨"/p/B.mxml"⟩, [tag], some ⟨0⟩⟩

def snapshot : Snapshot where
  units := [⟨⟨"/p/A.as"⟩, .script, some "a", some ⟨0⟩, .ready [], none, [], none⟩,
    ⟨⟨"/p/B.mxml"⟩, .markup, some "<A/>", none, .ready [], none, [], some markup⟩]
  nodes := [⟨.memberAccess ⟨0⟩ ⟨0⟩, ⟨0, 1⟩, some ⟨0⟩, [⟨0⟩]⟩]

def context : Context where
  project := .ofSnapshot {} snapshot

def document : SourceDocument :=
  ⟨⟨"/p/A.as"⟩, .script, "a"⟩

end CircleSample

/-- One node that is linked to itself keeps both requests from an answer. Each of the walks runs on
for ever by itself, and the search for the innermost node has no end within any number of moves. -/
theorem Context.requests_endless_on_circle :
    (CircleSample.context.definition CircleSample.document ⟨0, 0⟩ = .error .endless ∧
      CircleSample.context.rename CircleSample.document ⟨0, 0⟩ "c" = .error .endless) ∧
    (CircleSample.context.project.innermostNode ⟨0⟩ 0 = .error .endless ∧
      CircleSample.context.scriptOccurrences ⟨0⟩ [] = .error .endless ∧
      CircleSample.context.project.enclosingClass ⟨0⟩ = .error .endless ∧
      CircleSample.context.project.isInStyleBlock ⟨0⟩ = .error .endless ∧
      CircleSample.context.project.dottedName 1 ⟨0⟩ = .error .endless ∧
      CircleSample.markup.tagAt 0 = .error .endless) ∧
    ¬ ∃ moves leaf, Leads (CircleSample.context.project.childAt? 0) moves ⟨0⟩ leaf := by
  refine ⟨⟨rfl, rfl⟩, ⟨rfl, rfl, rfl, rfl, rfl, rfl⟩, ?_⟩
  rintro ⟨moves, leaf, hleads⟩
  have hwalk := Project.walk_eq_of_leads (fun _ hsome => Option.isSome_of_isSome_bind hsome) hleads
  cases hwalk

end SymbolNav
