import SymbolNav.Proofs.Navigation.Answers
import SymbolNav.Proofs.Navigation.Tree
import SymbolNav.Rename.Occurrences

/-!
# What the search for occurrences finds

`Occurs` says where a definition occurs in a unit without saying how to look for it: at the names of
tags and attributes that are bound to it, at the `id` values that declare it, and at the identifiers
that resolve to it anywhere below the root of the syntax tree. A search that is answered has found
exactly these spans.
-/

namespace SymbolNav

namespace Project

/-- After its overrides have been followed, a definition is the target or the constructor of the
target class. -/
def StandsFor (p : Project) (id : DefId) (target : Definition) (d : DefId) : Prop :=
  p.baseDeclaration d = id ∨ target.constructor? = some (p.baseDeclaration d)

/-- A tag of the markup of a unit, in a document that has a root tag. -/
def HasTag (p : Project) (u : UnitId) (t : TagId) (tag : MarkupTag) : Prop :=
  ∃ m, p.markup? u = some m ∧ m.rootTag?.isSome ∧ m.tag? t = some tag

end Project

namespace Context

/-- An identifier below a node that resolves to the target. -/
structure IdentifiesBelow (ctx : Context) (id : DefId) (target : Definition) (root i : NodeId)
    (node : SyntaxNode) : Prop where
  below : ctx.project.Below root i
  node_eq : ctx.project.node? i = some node
  isIdentifier : node.isIdentifier
  resolves : ∃ d, ctx.resolver.identifier ctx.project i = .ok (some d) ∧
    ctx.project.StandsFor id target d

/-- An identifier in the syntax tree of a unit that resolves to the target. -/
def Identifies (ctx : Context) (id : DefId) (target : Definition) (u : UnitId) (i : NodeId)
    (node : SyntaxNode) : Prop :=
  ∃ root, ctx.project.ast? u = some root ∧ ctx.IdentifiesBelow id target root i node

/-- The spans of a unit at which the target is named. -/
inductive Occurs (ctx : Context) (id : DefId) (target : Definition) (u : UnitId) : Span → Prop where
  | startTag {t : TagId} {tag : MarkupTag} {d : DefId} (htag : ctx.project.HasTag u t tag)
      (hbound : ctx.project.tagBinding? u t = some d)
      (hstands : ctx.project.StandsFor id target d) : Occurs ctx id target u tag.localNameSpan
  | endTag {t : TagId} {tag : MarkupTag} {d : DefId} {s : Span}
      (htag : ctx.project.HasTag u t tag) (hbound : ctx.project.tagBinding? u t = some d)
      (hstands : ctx.project.StandsFor id target d) (hclose : tag.closeLocalNameSpan? = some s) :
      Occurs ctx id target u s
  | attributeName {t : TagId} {tag : MarkupTag} {index : Nat} {attr : MarkupAttribute} {d : DefId}
      (htag : ctx.project.HasTag u t tag) (hattr : tag.attributes[index]? = some attr)
      (hbound : ctx.project.attributeBinding? u t index = some d)
      (hstands : ctx.project.StandsFor id target d) : Occurs ctx id target u attr.nameSpan
  | idValue {t : TagId} {tag : MarkupTag} {attr : MarkupAttribute} {owner : DefId} {s : Span}
      (htag : ctx.project.HasTag u t tag) (hattr : attr ∈ tag.attributes)
      (hvariable : target.isVariable) (hparent : target.parent = some owner)
      (hroot : ctx.project.rootDefinition u = .ok (some owner)) (hname : attr.name = idAttribute)
      (hvalue : attr.rawValue = target.name) (hspan : attr.valueSpan = some s) :
      Occurs ctx id target u s
  | identifier {i : NodeId} {node : SyntaxNode} (h : ctx.Identifies id target u i node) :
      Occurs ctx id target u node.span

end Context

variable {ctx : Context} {p : Project} {id : DefId} {target : Definition} {u : UnitId}
variable {s : Span} {spans : List Span}

namespace Project

theorem isOneOf_iff {d : Option DefId} :
    p.isOneOf (id :: target.constructor?.toList) d ↔ ∃ e, d = some e ∧ p.StandsFor id target e := by
  cases d with
  | none => simp [isOneOf]
  | some e =>
      rw [isOneOf, Option.any_some, List.contains_iff_mem, List.mem_cons, Option.mem_toList]
      simp [StandsFor]

theorem rootDefinition?_eq_some {owner : DefId} :
    p.rootDefinition? u = some owner ↔ p.rootDefinition u = .ok (some owner) := by
  unfold rootDefinition?
  cases h : p.rootDefinition u with
  | error e => simp
  | ok d => simp

theorem isIdField_iff :
    p.isIdField u target ↔ target.isVariable ∧
      ∃ owner, target.parent = some owner ∧ p.rootDefinition u = .ok (some owner) := by
  cases h : target.parent with
  | none => simp [isIdField, h]
  | some owner => simp [isIdField, h, rootDefinition?_eq_some]

theorem mem_attributeOccurrences_iff {t : TagId} {index : Nat} {attr : MarkupAttribute} :
    s ∈ p.attributeOccurrences u (id :: target.constructor?.toList) target t index attr ↔
      (s = attr.nameSpan ∧
        ∃ d, p.attributeBinding? u t index = some d ∧ p.StandsFor id target d) ∨
      (p.isIdField u target ∧ attr.name = idAttribute ∧ attr.rawValue = target.name ∧
        attr.valueSpan = some s) := by
  rw [attributeOccurrences, List.mem_append]
  refine or_congr ?_ ?_
  · rw [← isOneOf_iff]
    split <;> simp_all
  · split <;> simp_all [and_assoc]

theorem mem_tagOccurrences_iff {t : TagId} {tag : MarkupTag} :
    s ∈ p.tagOccurrences u (id :: target.constructor?.toList) target t tag ↔
      ((s = tag.localNameSpan ∨ tag.closeLocalNameSpan? = some s) ∧
        ∃ d, p.tagBinding? u t = some d ∧ p.StandsFor id target d) ∨
      ∃ index attr, tag.attributes[index]? = some attr ∧
        s ∈ p.attributeOccurrences u (id :: target.constructor?.toList) target t index attr := by
  rw [tagOccurrences, List.mem_append]
  refine or_congr ?_ ?_
  · rw [← isOneOf_iff]
    split <;> simp_all
  · rw [List.mem_flatMap]
    constructor
    · rintro ⟨⟨attr, index⟩, hmem, hs⟩
      exact ⟨index, attr, List.mk_mem_zipIdx_iff_getElem?.mp hmem, hs⟩
    · rintro ⟨index, attr, hattr, hs⟩
      exact ⟨(attr, index), List.mk_mem_zipIdx_iff_getElem?.mpr hattr, hs⟩

theorem mem_markupOccurrences_iff :
    s ∈ p.markupOccurrences u (id :: target.constructor?.toList) target ↔
      ∃ t tag, p.HasTag u t tag ∧
        s ∈ p.tagOccurrences u (id :: target.constructor?.toList) target t tag := by
  unfold markupOccurrences HasTag
  cases hm : p.markup? u with
  | none => simp
  | some m =>
      by_cases hroot : m.rootTag?.isSome
      · simp only [hroot, if_true, List.mem_flatMap]
        constructor
        · rintro ⟨⟨tag, index⟩, hmem, hs⟩
          exact ⟨⟨index⟩, tag, ⟨m, rfl, hroot, List.mk_mem_zipIdx_iff_getElem?.mp hmem⟩, hs⟩
        · rintro ⟨t, tag, ⟨m', hm', -, htag⟩, hs⟩
          cases hm'
          exact ⟨(tag, t.index), List.mk_mem_zipIdx_iff_getElem?.mpr htag, hs⟩
      · simp [hroot]

end Project

namespace Context

theorem mem_nodeOccurrence_iff {i : NodeId} {node : SyntaxNode}
    (h : ctx.nodeOccurrence (id :: target.constructor?.toList) i node = .ok spans) :
    s ∈ spans ↔ s = node.span ∧ node.isIdentifier ∧
      ∃ d, ctx.resolver.identifier ctx.project i = .ok (some d) ∧
        ctx.project.StandsFor id target d := by
  unfold nodeOccurrence at h
  split at h
  · rename_i hident
    obtain ⟨resolved, hresolved, h⟩ := Answer.bind_eq_ok.mp h
    cases h
    have hone : ctx.project.isOneOf (id :: target.constructor?.toList) resolved ↔
        ∃ d, resolved = some d ∧ ctx.project.StandsFor id target d := Project.isOneOf_iff
    split <;> simp_all
  · cases h
    simp_all

theorem not_identifiesBelow_of_none {root i : NodeId} {node : SyntaxNode}
    (hroot : ctx.project.node? root = none) : ¬ ctx.IdentifiesBelow id target root i node := by
  intro h
  obtain rfl := Project.below_of_none hroot h.below
  have hnode := h.node_eq
  rw [hroot] at hnode
  cases hnode

theorem identifiesBelow_iff {root i : NodeId} {rootNode node : SyntaxNode}
    (hroot : ctx.project.node? root = some rootNode) :
    ctx.IdentifiesBelow id target root i node ↔
      (i = root ∧ node = rootNode ∧ rootNode.isIdentifier ∧
        ∃ d, ctx.resolver.identifier ctx.project root = .ok (some d) ∧
          ctx.project.StandsFor id target d) ∨
      ∃ child ∈ rootNode.children, ctx.IdentifiesBelow id target child i node := by
  constructor
  · rintro ⟨hbelow, hnode, hident, hresolves⟩
    rcases (Project.below_iff hroot).mp hbelow with rfl | ⟨child, hchild, hbelow⟩
    · rw [hroot] at hnode
      cases hnode
      exact Or.inl ⟨rfl, rfl, hident, hresolves⟩
    · exact Or.inr ⟨child, hchild, hbelow, hnode, hident, hresolves⟩
  · rintro (⟨rfl, rfl, hident, hresolves⟩ | ⟨child, hchild, hbelow, hnode, hident, hresolves⟩)
    · exact ⟨.refl, hroot, hident, hresolves⟩
    · exact ⟨(Project.below_iff hroot).mpr (Or.inr ⟨child, hchild, hbelow⟩), hnode, hident,
        hresolves⟩

/-- One step of the search: the node itself, then what lies below each of its children. -/
theorem treeOccurrences_eq_ok {targets : List DefId} {depth : Nat} {root : NodeId}
    {rootNode : SyntaxNode} (hroot : ctx.project.node? root = some rootNode)
    (h : ctx.treeOccurrences targets depth root = .ok spans) :
    ∃ deeper own below, depth = deeper + 1 ∧ ctx.nodeOccurrence targets root rootNode = .ok own ∧
      rootNode.children.mapM (ctx.treeOccurrences targets deeper) = .ok below ∧
      spans = own ++ below.flatten := by
  unfold treeOccurrences at h
  rw [hroot] at h
  cases depth with
  | zero => cases h
  | succ deeper =>
      obtain ⟨own, hown, h⟩ := Answer.bind_eq_ok.mp h
      obtain ⟨below, hbelow, h⟩ := Answer.bind_eq_ok.mp h
      cases h
      exact ⟨deeper, own, below, rfl, hown, hbelow, rfl⟩

/-- The search below a node finds the identifiers that can be reached from it. The induction is on
the depth that the search may still go. -/
theorem mem_treeOccurrences_iff {depth : Nat} {root : NodeId}
    (h : ctx.treeOccurrences (id :: target.constructor?.toList) depth root = .ok spans) :
    s ∈ spans ↔ ∃ i node, ctx.IdentifiesBelow id target root i node ∧ s = node.span := by
  induction depth using Nat.strongRecOn generalizing root spans with
  | ind depth ih =>
      cases hroot : ctx.project.node? root with
      | none =>
          unfold treeOccurrences at h
          rw [hroot] at h
          cases h
          simp [not_identifiesBelow_of_none hroot]
      | some rootNode =>
          obtain ⟨deeper, own, below, rfl, hown, hbelow, rfl⟩ := treeOccurrences_eq_ok hroot h
          rw [List.mem_append, mem_nodeOccurrence_iff hown, Answer.mem_flatten_mapM hbelow]
          simp only [identifiesBelow_iff hroot]
          constructor
          · rintro (⟨hs, hident, hresolves⟩ | ⟨child, hchild, found, hfound, hs⟩)
            · exact ⟨root, rootNode, Or.inl ⟨rfl, rfl, hident, hresolves⟩, hs⟩
            · obtain ⟨i, node, hi, hs⟩ := (ih deeper (Nat.lt_succ_self _) hfound).mp hs
              exact ⟨i, node, Or.inr ⟨child, hchild, hi⟩, hs⟩
          · rintro ⟨i, node, ⟨-, rfl, hident, hresolves⟩ | ⟨child, hchild, hi⟩, hs⟩
            · exact Or.inl ⟨hs, hident, hresolves⟩
            · obtain ⟨found, hfound⟩ := Answer.exists_ok_of_mapM hbelow hchild
              exact Or.inr ⟨child, hchild, found, hfound,
                (ih deeper (Nat.lt_succ_self _) hfound).mpr ⟨i, node, hi, hs⟩⟩

theorem mem_scriptOccurrences_iff
    (h : ctx.scriptOccurrences u (id :: target.constructor?.toList) = .ok spans) :
    s ∈ spans ↔ ∃ i node, ctx.Identifies id target u i node ∧ s = node.span := by
  unfold scriptOccurrences at h
  unfold Identifies
  cases hast : ctx.project.ast? u with
  | none =>
      rw [hast] at h
      cases h
      simp
  | some root =>
      rw [hast] at h
      rw [mem_treeOccurrences_iff h]
      simp

theorem occurs_of_mem_attributeOccurrences {t : TagId} {tag : MarkupTag} {index : Nat}
    {attr : MarkupAttribute} (htag : ctx.project.HasTag u t tag)
    (hattr : tag.attributes[index]? = some attr)
    (hs : s ∈ ctx.project.attributeOccurrences u (id :: target.constructor?.toList) target t index
      attr) : ctx.Occurs id target u s := by
  rcases Project.mem_attributeOccurrences_iff.mp hs with
    ⟨rfl, d, hbound, hstands⟩ | ⟨hfield, hname, hvalue, hspan⟩
  · exact .attributeName htag hattr hbound hstands
  · obtain ⟨hvariable, owner, hparent, hroot⟩ := Project.isIdField_iff.mp hfield
    exact .idValue htag (List.mem_of_getElem? hattr) hvariable hparent hroot hname hvalue hspan

theorem occurs_of_mem_markupOccurrences
    (hs : s ∈ ctx.project.markupOccurrences u (id :: target.constructor?.toList) target) :
    ctx.Occurs id target u s := by
  obtain ⟨t, tag, htag, hs⟩ := Project.mem_markupOccurrences_iff.mp hs
  rcases Project.mem_tagOccurrences_iff.mp hs with
    ⟨rfl | hclose, d, hbound, hstands⟩ | ⟨index, attr, hattr, hs⟩
  · exact .startTag htag hbound hstands
  · exact .endTag htag hbound hstands hclose
  · exact occurs_of_mem_attributeOccurrences htag hattr hs

/-- The search of a unit, if it is answered, finds every occurrence and nothing else. -/
theorem mem_occurrences_iff
    (h : ctx.occurrences u (id :: target.constructor?.toList) target = .ok spans) :
    s ∈ spans ↔ ctx.Occurs id target u s := by
  obtain ⟨script, hscript, h⟩ := Answer.bind_eq_ok.mp h
  cases h
  rw [List.mem_append, mem_scriptOccurrences_iff hscript]
  constructor
  · rintro (hs | ⟨i, node, hidentifies, rfl⟩)
    · exact occurs_of_mem_markupOccurrences hs
    · exact .identifier hidentifies
  · intro hs
    cases hs with
    | startTag htag hbound hstands =>
        exact Or.inl (Project.mem_markupOccurrences_iff.mpr ⟨_, _, htag,
          Project.mem_tagOccurrences_iff.mpr (Or.inl ⟨Or.inl rfl, _, hbound, hstands⟩)⟩)
    | endTag htag hbound hstands hclose =>
        exact Or.inl (Project.mem_markupOccurrences_iff.mpr ⟨_, _, htag,
          Project.mem_tagOccurrences_iff.mpr (Or.inl ⟨Or.inr hclose, _, hbound, hstands⟩)⟩)
    | attributeName htag hattr hbound hstands =>
        exact Or.inl (Project.mem_markupOccurrences_iff.mpr ⟨_, _, htag,
          Project.mem_tagOccurrences_iff.mpr (Or.inr ⟨_, _, hattr,
            Project.mem_attributeOccurrences_iff.mpr (Or.inl ⟨rfl, _, hbound, hstands⟩)⟩)⟩)
    | idValue htag hattr hvariable hparent hroot hname hvalue hspan =>
        obtain ⟨index, hindex⟩ := List.mem_iff_getElem?.mp hattr
        exact Or.inl (Project.mem_markupOccurrences_iff.mpr ⟨_, _, htag,
          Project.mem_tagOccurrences_iff.mpr (Or.inr ⟨index, _, hindex,
            Project.mem_attributeOccurrences_iff.mpr (Or.inr
              ⟨Project.isIdField_iff.mpr ⟨hvariable, _, hparent, hroot⟩, hname, hvalue, hspan⟩)⟩)⟩)
    | identifier hidentifies => exact Or.inr ⟨_, _, hidentifies, rfl⟩

end Context

end SymbolNav
