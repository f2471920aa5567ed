import SymbolNav.Proofs.Rename.Stability

/-!
# Renaming reaches the name under the cursor

A request finds what stands at its position in one way, and the scan of the unit finds occurrences
in another. `AtCursor` lists the places from which a definition can be renamed, each with the span
that the name occupies. Every such span is an occurrence of what the request renames, so the plan
changes it, or an occurrence that overlaps it.
-/

namespace SymbolNav

/-- The innermost tag at an offset of a unit. -/
def Project.TagAt (p : Project) (u : UnitId) (offset : Nat) (t : TagId) (tag : MarkupTag) : Prop :=
  ∃ m, p.markup? u = some m ∧ m.tagAt offset = .ok (some t) ∧ m.tag? t = some tag

/-- At an offset of a unit stands a name for the definition `d`, on the given span: an identifier in
script, the name of a tag or attribute, or the value of an `id` attribute. -/
inductive Context.AtCursor (ctx : Context) (u : UnitId) (offset : Nat) :
    Dialect → DefId → Span → Prop where
  | script {i : NodeId} {node : SyntaxNode} {d : DefId}
      (hplace : ctx.project.offsetTarget u offset = .ok (.node i))
      (hnode : ctx.project.node? i = some node) (hident : node.isIdentifier)
      (hresolved : ctx.resolver.identifier ctx.project i = .ok (some d)) :
      AtCursor ctx u offset .script d node.span
  /-- Markup leaves the offset to script. -/
  | fallthrough {i : NodeId} {node : SyntaxNode} {d : DefId}
      (hmarkup : ctx.project.markupTarget u offset = .ok .fallthrough)
      (hplace : ctx.project.offsetTarget u offset = .ok (.node i))
      (hnode : ctx.project.node? i = some node) (hident : node.isIdentifier)
      (hresolved : ctx.resolver.identifier ctx.project i = .ok (some d)) :
      AtCursor ctx u offset .markup d node.span
  | embedded {i : NodeId} {node : SyntaxNode} {d : DefId}
      (hmarkup : ctx.project.markupTarget u offset = .ok (.script i))
      (hnode : ctx.project.node? i = some node) (hident : node.isIdentifier)
      (hresolved : ctx.resolver.identifier ctx.project i = .ok (some d)) :
      AtCursor ctx u offset .markup d node.span
  | startName {t : TagId} {tag : MarkupTag} {d : DefId} (htag : ctx.project.TagAt u offset t tag)
      (hmarkup : ctx.project.markupTarget u offset = .ok (.definition d))
      (hname : tag.nameSpan.covers offset) : AtCursor ctx u offset .markup d tag.localNameSpan
  | endName {t : TagId} {tag : MarkupTag} {d : DefId} {close s : Span}
      (htag : ctx.project.TagAt u offset t tag)
      (hmarkup : ctx.project.markupTarget u offset = .ok (.definition d))
      (hclose : tag.closeNameSpan = some close) (hname : close.covers offset)
      (hspan : tag.closeLocalNameSpan? = some s) : AtCursor ctx u offset .markup d s
  | attributeName {t : TagId} {tag : MarkupTag} {index : Nat} {attr : MarkupAttribute} {d : DefId}
      (htag : ctx.project.TagAt u offset t tag)
      (hmarkup : ctx.project.markupTarget u offset = .ok (.definition d))
      (hname : tag.isInName offset = false) (hindex : tag.attributeNameAt? offset = some index)
      (hattr : tag.attributes[index]? = some attr) : AtCursor ctx u offset .markup d attr.nameSpan
  /-- The field that the attribute declares is a variable of the class of the unit. -/
  | idValue {t : TagId} {tag : MarkupTag} {index : Nat} {attr : MarkupAttribute} {d owner : DefId}
      {field : Definition} {s : Span} (htag : ctx.project.TagAt u offset t tag)
      (hmarkup : ctx.project.markupTarget u offset = .ok (.attributeValue t index))
      (hattr : tag.attributes[index]? = some attr) (hspan : attr.valueSpan = some s)
      (hfield : ctx.project.idField? u t index = some d)
      (hdefinition : ctx.project.definition? d = some field) (hvariable : field.isVariable)
      (hparent : field.parent = some owner)
      (hroot : ctx.project.rootDefinition u = .ok (some owner)) :
      AtCursor ctx u offset .markup d s

namespace MarkupTag

variable {tag : MarkupTag} {offset start : Nat}

/-- Behind the namespace of a name, the name itself has begun. -/
theorem moveOffset_le (hstart : start ≤ offset)
    (hspace : (tag.name.space.isSome && tag.isInSpaceFrom start offset) = false) :
    moveOffset start tag.spaceLength ≤ offset := by
  cases hname : tag.name.space with
  | none =>
      have hlength : tag.spaceLength = 0 := by rw [spaceLength, hname]
      rw [hlength]
      exact Nat.le_trans (Nat.mod_le start offsetLimit) hstart
  | some space =>
      simp only [hname, isInSpaceFrom, Option.isSome_some, Bool.true_and, Bool.and_eq_false_iff,
        decide_eq_false_iff_not] at hspace
      omega

theorem covers_localNameSpan (hspace : tag.isInSpace offset = false)
    (hname : tag.nameSpan.covers offset) : tag.localNameSpan.covers offset := by
  rw [Span.covers_iff] at *
  refine ⟨moveOffset_le hname.1 ?_, hname.2⟩
  unfold isInSpace at hspace
  grind

theorem covers_closeLocalNameSpan {close s : Span} (hspace : tag.isInSpace offset = false)
    (hclose : tag.closeNameSpan = some close) (hname : close.covers offset)
    (hspan : tag.closeLocalNameSpan? = some s) : s.covers offset := by
  rw [closeLocalNameSpan?, hclose] at hspan
  cases hspan
  rw [Span.covers_iff] at *
  refine ⟨moveOffset_le hname.1 ?_, hname.2⟩
  unfold isInSpace at hspace
  grind

theorem attributeNameAt?_eq_some {index : Nat} {attr : MarkupAttribute}
    (h : tag.attributeNameAt? offset = some index) (hattr : tag.attributes[index]? = some attr) :
    attr.nameSpan.covers offset := by
  obtain ⟨hlt, hcovers, -⟩ := List.findIdx?_eq_some_iff_getElem.mp h
  rw [List.getElem?_eq_getElem hlt] at hattr
  cases hattr
  exact hcovers

theorem attributeValueAt?_eq_some {index : Nat} {attr : MarkupAttribute}
    (h : tag.attributeValueAt? offset = some (index, attr)) :
    tag.attributes[index]? = some attr ∧ attr.valueSpan.any (·.covers offset) := by
  obtain ⟨⟨found, place⟩, hfound, heq⟩ := Option.map_eq_some_iff.mp h
  cases heq
  have hcovers := List.find?_some hfound
  exact ⟨List.mk_mem_zipIdx_iff_getElem?.mp (List.mem_of_find?_eq_some hfound), hcovers⟩

end MarkupTag

namespace Project

variable {p : Project} {u : UnitId} {offset : Nat} {t : TagId} {tag : MarkupTag} {d id : DefId}
variable {target : Definition}

theorem TagAt.hasTag (h : p.TagAt u offset t tag) : p.HasTag u t tag := by
  obtain ⟨m, hm, htag, hfound⟩ := h
  refine ⟨m, hm, ?_, hfound⟩
  unfold MarkupDocument.tagAt at htag
  cases hroot : m.rootTag? with
  | none =>
      rw [hroot] at htag
      cases htag
  | some root => rfl

/-- What a definition is renamed as is named wherever the definition is. -/
theorem standsFor_renameTarget
    (htarget : p.definition? (p.renameTarget (p.baseDeclaration d)) = some target) :
    p.StandsFor (p.renameTarget (p.baseDeclaration d)) target d := by
  rcases p.renameTarget_eq_or (p.baseDeclaration d) with hself | ⟨owner, howner, hconstructor⟩
  · exact Or.inl hself.symm
  · obtain rfl : owner = target := Option.some.inj (howner.symm.trans htarget)
    exact Or.inr hconstructor

/-- A variable overrides nothing and constructs nothing. -/
theorem renameTarget_of_isVariable {field : Definition} (hfield : p.definition? d = some field)
    (hvariable : field.isVariable) : p.renameTarget (p.baseDeclaration d) = d := by
  obtain ⟨kind, hkind⟩ : ∃ classification, field.kind = .var classification := by
    unfold Definition.isVariable at hvariable
    split at hvariable
    · exact ⟨_, by assumption⟩
    · cases hvariable
  have hbase : p.baseDeclaration d = d := by
    have hnext : p.nextBase? d = none := by
      simp [nextBase?, defines, hfield, Definition.isOverride, hkind]
    rw [baseDeclaration, overrideLimit, baseWithin, hnext]
  rw [hbase]
  simp [renameTarget, hfield, Definition.isFunction, hkind, Option.filter_some]

theorem innermostNode_of_offsetTarget {i : NodeId} (h : p.offsetTarget u offset = .ok (.node i)) :
    ∃ root, p.ast? u = some root ∧ p.innermostNode root offset = .ok (some i) := by
  unfold offsetTarget at h
  split at h
  · cases h
  · split at h
    · cases h
    · rename_i root hast
      obtain ⟨found, hfound, h⟩ := Answer.bind_eq_ok.mp h
      cases found with
      | none => cases h
      | some j =>
          cases h
          exact ⟨root, hast, hfound⟩

theorem tagTarget_ne_script {m : MarkupDocument} {i : NodeId} :
    p.tagTarget u m t tag offset ≠ .script i := by
  unfold tagTarget
  grind

theorem innermostNode_of_embeddedNode {i : NodeId}
    (h : p.embeddedNode u tag offset = .ok (some i)) :
    ∃ root, p.ast? u = some root ∧ p.innermostNode root offset = .ok (some i) := by
  unfold embeddedNode at h
  split at h
  · rename_i root _ hast
    obtain ⟨found, hfound, h⟩ := Answer.bind_eq_ok.mp h
    obtain ⟨rfl, -⟩ := Option.filter_eq_some_iff.mp (Except.ok.inj h)
    exact ⟨root, hast, hfound⟩
  · cases h

/-- Script in markup is found as script is, in the syntax tree of the unit. -/
theorem innermostNode_of_markupTarget {i : NodeId}
    (h : p.markupTarget u offset = .ok (.script i)) :
    ∃ root, p.ast? u = some root ∧ p.innermostNode root offset = .ok (some i) := by
  unfold markupTarget at h
  split at h
  · cases h
  · obtain ⟨found, -, h⟩ := Answer.bind_eq_ok.mp h
    split at h
    · cases h
    · split at h
      · cases h
      · obtain ⟨embedded, hembedded, h⟩ := Answer.bind_eq_ok.mp h
        cases embedded with
        | none => exact absurd (Except.ok.inj h) tagTarget_ne_script
        | some j =>
            cases h
            exact innermostNode_of_embeddedNode hembedded

/-- Where no script stands, the tag at the offset decides. -/
theorem TagAt.tagTarget_eq {found : MarkupTarget} (h : p.TagAt u offset t tag)
    (hmarkup : p.markupTarget u offset = .ok found) (hscript : ∀ i, found ≠ .script i) :
    ∃ m, p.tagTarget u m t tag offset = found := by
  obtain ⟨m, hm, hat, htag⟩ := h
  unfold markupTarget at hmarkup
  simp only [hm] at hmarkup
  obtain ⟨_, hat', hmarkup⟩ := Answer.bind_eq_ok.mp hmarkup
  obtain rfl := Except.ok.inj (hat.symm.trans hat')
  simp only [htag] at hmarkup
  obtain ⟨embedded, -, hmarkup⟩ := Answer.bind_eq_ok.mp hmarkup
  cases embedded with
  | some i => exact absurd (Except.ok.inj hmarkup).symm (hscript i)
  | none => exact ⟨m, Except.ok.inj hmarkup⟩

theorem tagTarget_eq_definition {m : MarkupDocument}
    (h : p.tagTarget u m t tag offset = .definition d) :
    tag.isInSpace offset = false ∧ p.boundName? u t tag offset = some d := by
  unfold tagTarget at h
  grind

theorem tagTarget_eq_attributeValue {m : MarkupDocument} {index : Nat}
    (h : p.tagTarget u m t tag offset = .attributeValue t index) :
    ∃ attr, tag.attributeValueAt? offset = some (index, attr) := by
  unfold tagTarget at h
  grind

/-- A name in markup that leads to a definition is bound to it and is not a namespace. -/
theorem TagAt.boundName?_eq (h : p.TagAt u offset t tag)
    (hmarkup : p.markupTarget u offset = .ok (.definition d)) :
    tag.isInSpace offset = false ∧ p.boundName? u t tag offset = some d := by
  obtain ⟨m, hm⟩ := h.tagTarget_eq hmarkup (by simp)
  exact tagTarget_eq_definition hm

/-- The field of an `id` attribute has the value as its name. -/
theorem idField?_eq_some {index : Nat} {attr : MarkupAttribute} {field : Definition}
    (htag : p.HasTag u t tag) (hattr : tag.attributes[index]? = some attr)
    (h : p.idField? u t index = some d) (hfield : p.definition? d = some field) :
    attr.name = idAttribute ∧ attr.rawValue = field.name := by
  obtain ⟨m, hm, -, hfound⟩ := htag
  unfold idField? at h
  simp only [hm, hfound, hattr, Option.bind_eq_bind, Option.bind_some] at h
  obtain ⟨found, hname, h⟩ := Option.bind_eq_some_iff.mp h
  obtain ⟨hsome, hname⟩ := Option.filter_eq_some_iff.mp hname
  cases hsome
  obtain ⟨owner, -, h⟩ := Option.bind_eq_some_iff.mp h
  obtain ⟨definition, -, h⟩ := Option.bind_eq_some_iff.mp h
  have hdefines := List.find?_some h
  simp only [defines, hfield, Option.any_some, decide_eq_true_eq] at hdefines
  exact ⟨by simpa using hname, hdefines.symm⟩

end Project

namespace Context

variable {ctx : Context} {u : UnitId} {offset : Nat} {d id : DefId} {target : Definition}
variable {s : Span}

theorem occurs_of_innermostNode {root i : NodeId} {node : SyntaxNode}
    (hast : ctx.project.ast? u = some root)
    (hfound : ctx.project.innermostNode root offset = .ok (some i))
    (hnode : ctx.project.node? i = some node) (hident : node.isIdentifier)
    (hresolved : ctx.resolver.identifier ctx.project i = .ok (some d))
    (hstands : ctx.project.StandsFor id target d) :
    ctx.Occurs id target u node.span ∧ node.span.covers offset := by
  obtain ⟨hbelow, hcovers⟩ := Project.below_of_innermostNode hfound
  rw [hnode] at hcovers
  exact ⟨.identifier ⟨root, hast, hbelow, hnode, hident, d, hresolved, hstands⟩, hcovers⟩

namespace AtCursor

variable {dialect : Dialect}

/-- The name at the cursor covers the offset, and the scan of the unit finds it. -/
theorem occurs (h : ctx.AtCursor u offset dialect d s)
    (hid : ctx.project.renameTarget (ctx.project.baseDeclaration d) = id)
    (htarget : ctx.project.definition? id = some target) :
    ctx.Occurs id target u s ∧ s.covers offset := by
  subst hid
  have hstands := Project.standsFor_renameTarget htarget
  cases h with
  | script hplace hnode hident hresolved =>
      obtain ⟨root, hast, hfound⟩ := Project.innermostNode_of_offsetTarget hplace
      exact occurs_of_innermostNode hast hfound hnode hident hresolved hstands
  | fallthrough _ hplace hnode hident hresolved =>
      obtain ⟨root, hast, hfound⟩ := Project.innermostNode_of_offsetTarget hplace
      exact occurs_of_innermostNode hast hfound hnode hident hresolved hstands
  | embedded hmarkup hnode hident hresolved =>
      obtain ⟨root, hast, hfound⟩ := Project.innermostNode_of_markupTarget hmarkup
      exact occurs_of_innermostNode hast hfound hnode hident hresolved hstands
  | startName htag hmarkup hname =>
      obtain ⟨hspace, hbound⟩ := htag.boundName?_eq hmarkup
      rw [Project.boundName?, if_pos (by simp [MarkupTag.isInName, hname])] at hbound
      exact ⟨.startTag htag.hasTag hbound hstands, MarkupTag.covers_localNameSpan hspace hname⟩
  | endName htag hmarkup hclose hname hspan =>
      obtain ⟨hspace, hbound⟩ := htag.boundName?_eq hmarkup
      rw [Project.boundName?, if_pos (by simp [MarkupTag.isInName, hclose, hname])] at hbound
      exact ⟨.endTag htag.hasTag hbound hstands hspan,
        MarkupTag.covers_closeLocalNameSpan hspace hclose hname hspan⟩
  | attributeName htag hmarkup hname hindex hattr =>
      obtain ⟨-, hbound⟩ := htag.boundName?_eq hmarkup
      rw [Project.boundName?, if_neg (by simp [hname]), hindex] at hbound
      exact ⟨.attributeName htag.hasTag hattr hbound hstands,
        MarkupTag.attributeNameAt?_eq_some hindex hattr⟩
  | idValue htag hmarkup hattr hspan hfield hdefinition hvariable hparent hroot =>
      rw [Project.renameTarget_of_isVariable hdefinition hvariable] at htarget hstands ⊢
      obtain rfl := Option.some.inj (hdefinition.symm.trans htarget)
      obtain ⟨hname, hvalue⟩ := Project.idField?_eq_some htag.hasTag hattr hfield hdefinition
      obtain ⟨m, hm⟩ := htag.tagTarget_eq hmarkup (by simp)
      obtain ⟨found, hfound⟩ := Project.tagTarget_eq_attributeValue hm
      obtain ⟨hattr', hcovers⟩ := MarkupTag.attributeValueAt?_eq_some hfound
      obtain rfl := Option.some.inj (hattr.symm.trans hattr')
      rw [hspan] at hcovers
      exact ⟨.idValue htag.hasTag (List.mem_of_getElem? hattr) hvariable hparent hroot hname hvalue
        hspan, hcovers⟩

theorem definition_eq_of_script {e : DefId} {i : NodeId} {node : SyntaxNode}
    (hplace : ctx.project.offsetTarget u offset = .ok (.node i))
    (hnode : ctx.project.node? i = some node) (hident : node.isIdentifier)
    (hresolved : ctx.resolver.identifier ctx.project i = .ok (some d))
    (hfound : ctx.scriptRenameTarget u offset = .ok (.definition e)) : e = d := by
  obtain ⟨j, hplace', -, hrename⟩ := scriptRenameTarget_eq_definition.mp hfound
  cases hplace.symm.trans hplace'
  rw [Resolver.forRename_of_isIdentifier hnode hident, hresolved] at hrename
  cases hrename
  rfl

theorem definition_eq_of_markup {e : DefId}
    (hmarkup : ctx.project.markupTarget u offset = .ok (.definition d))
    (hfound : ctx.markupRenameTarget u offset = .ok (.definition e)) : e = d := by
  rw [markupRenameTarget, hmarkup] at hfound
  cases hfound
  rfl

/-- A request for the name at the cursor is about the definition it names. -/
theorem definition_eq {e : DefId} (h : ctx.AtCursor u offset dialect d s)
    (hfound : ctx.renameTargetAt dialect u offset = .ok (.definition e)) : e = d := by
  cases h with
  | script hplace hnode hident hresolved =>
      exact definition_eq_of_script hplace hnode hident hresolved hfound
  | fallthrough hmarkup hplace hnode hident hresolved =>
      rw [renameTargetAt, markupRenameTarget, hmarkup] at hfound
      exact definition_eq_of_script hplace hnode hident hresolved hfound
  | embedded hmarkup hnode hident hresolved =>
      rw [renameTargetAt, markupRenameTarget, hmarkup] at hfound
      change (ctx.resolver.forRename ctx.project _ >>= fun found => _) = _ at hfound
      rw [Resolver.forRename_of_isIdentifier hnode hident, hresolved] at hfound
      cases hfound
      rfl
  | startName _ hmarkup => exact definition_eq_of_markup hmarkup hfound
  | endName _ hmarkup => exact definition_eq_of_markup hmarkup hfound
  | attributeName _ hmarkup => exact definition_eq_of_markup hmarkup hfound
  | idValue _ hmarkup _ _ hfield =>
      obtain ⟨found, hmarkup', hfound⟩ := Answer.bind_eq_ok.mp hfound
      cases hmarkup.symm.trans hmarkup'
      simp only [hfield] at hfound
      cases hfound
      rfl

end AtCursor

theorem mem_scannedUnits (hsource : ctx.project.isSource u)
    (hscope : target.isLocal ∨ target.isPrivate →
      ctx.project.unitForPath? target.containingFile = some u) :
    u ∈ ctx.project.scannedUnits target := by
  unfold Project.scannedUnits
  split
  · rename_i hhidden
    rw [hscope (by simpa using hhidden)]
    exact List.mem_singleton_self u
  · obtain ⟨path, hpath⟩ := Project.exists_unitPath?_of_isSource hsource
    obtain ⟨unit, hunit, -⟩ := Option.map_eq_some_iff.mp hpath
    obtain ⟨hlt, -⟩ := List.getElem?_eq_some_iff.mp hunit
    exact List.mem_map.mpr ⟨u.index, List.mem_range.mpr hlt, rfl⟩

/-- Renaming never passes over the name it was asked for. If a request at a name is answered with a
plan, the plan has a batch for the unit with an edit that replaces the name, or an occurrence that
shares a byte with it. -/
theorem rename_changes_name_at_cursor {document : SourceDocument} {position : Position}
    {newName : String} {plan : RenamePlan}
    (h : ctx.rename document position newName = .ok (.edit plan))
    (hlocate : ctx.project.locate? document position = some ⟨u, offset⟩)
    (hcursor : ctx.AtCursor u offset document.dialect d s)
    (hid : ctx.project.renameTarget (ctx.project.baseDeclaration d) = id)
    (htarget : ctx.project.definition? id = some target) (hsource : ctx.project.isSource u)
    (fits : ∀ s, ctx.Occurs id target u s → ctx.project.Fits u s)
    (hscope : target.isLocal ∨ target.isPrivate →
      ctx.project.unitForPath? target.containingFile = some u) :
    s.covers offset ∧ ∃ doc ∈ plan.documents, ctx.project.unitPath? u = some doc.path ∧
      ∃ edit ∈ doc.edits, edit.newText = newName ∧
        ∃ k, ctx.project.editorRange? u k = some edit.range ∧
          ∃ byte, k.contains byte ∧ s.contains byte := by
  obtain ⟨-, -, u', offset', e, hlocate', hfound, hplan⟩ := rename_eq_edit.mp h
  cases hlocate.symm.trans hlocate'
  obtain rfl := hcursor.definition_eq hfound
  obtain ⟨hoccurs, hcovers⟩ := hcursor.occurs hid htarget
  obtain ⟨found, hfound, -, hrun⟩ := renameDefinition_eq_edit.mp hplan
  rw [hid] at hfound hrun
  obtain rfl : found = target := Option.some.inj (hfound.symm.trans htarget)
  obtain ⟨doc, hdoc, kept, hrenames⟩ :=
    exists_renamesIn_of_foldlM hrun (mem_scannedUnits hsource hscope) hsource fits hoccurs
  obtain ⟨edit, hedit, hname, k, hrange, hstart⟩ := hrenames.exists_edit hoccurs
  have hfirst : s.contains s.start := Span.contains_iff.mpr ⟨Nat.le_refl _, (fits s hoccurs).1⟩
  exact ⟨hcovers, doc, hdoc, hrenames.path_eq, edit, hedit, hname, k, hrange, s.start, hstart,
    hfirst⟩

/-- With the cursor right behind the name in an end tag, that name is changed. -/
theorem rename_changes_name_at_cursor_of_sample :
    Sample.context.rename ⟨⟨"/p/Main.mxml"⟩, .markup, "<s:Dot></s:Dot>"⟩ ⟨0, 14⟩ "Spot" =
        .ok (.edit Sample.spotPlan) ∧
      Sample.context.AtCursor ⟨1⟩ 14 .markup ⟨0⟩ ⟨11, 14⟩ ∧
      (⟨11, 14⟩ : Span).covers 14 ∧
      ∃ doc ∈ Sample.spotPlan.documents, Sample.context.project.unitPath? ⟨1⟩ = some doc.path ∧
        ∃ edit ∈ doc.edits, edit.newText = "Spot" ∧
          ∃ k, Sample.context.project.editorRange? ⟨1⟩ k = some edit.range ∧
            ∃ byte, k.contains byte ∧ (⟨11, 14⟩ : Span).contains byte := by
  have hplan : Sample.context.renameDefinition ⟨0⟩ "Spot" = .ok (.edit Sample.spotPlan) := by
    rw [← Sample.renameDefinition_constructor]
    exact renameDefinition_congr rfl
  have h : Sample.context.rename ⟨⟨"/p/Main.mxml"⟩, .markup, "<s:Dot></s:Dot>"⟩ ⟨0, 14⟩ "Spot" =
      .ok (.edit Sample.spotPlan) :=
    rename_eq_edit.mpr ⟨rfl, rfl, ⟨1⟩, 14, ⟨0⟩, rfl, rfl, hplan⟩
  have hcursor : Sample.context.AtCursor ⟨1⟩ 14 .markup ⟨0⟩ ⟨11, 14⟩ :=
    .endName ⟨_, rfl, rfl, rfl⟩ rfl rfl (by decide) rfl
  exact ⟨h, hcursor, rename_changes_name_at_cursor h rfl hcursor rfl rfl rfl
    (fun _ hs => Sample.fits (by decide) hs) (by decide)⟩

end Context

end SymbolNav
