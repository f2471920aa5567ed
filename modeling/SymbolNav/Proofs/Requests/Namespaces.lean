import SymbolNav.Navigation.Definition
import SymbolNav.Proofs.Rename.Cursor

/-!
# Namespaces in front of tag names

A namespace means nothing by itself, so neither request should find anything on it. This holds in
every start tag and in the end tags of components. The body of a script or style tag is left to
script, and it is taken to last until the end of the tag: in the end tag of such a tag the namespace
counts as body, and what script makes of the offset decides.
-/

namespace SymbolNav

/-- Script has nothing to answer at an offset: no comment and no node is there, or a node of a style
sheet that leads to no place. -/
inductive Context.SilentAt (ctx : Context) (u : UnitId) (offset : Nat) : Prop where
  | empty (hplace : ctx.project.offsetTarget u offset = .ok .nothing)
  | style {i : NodeId} {found : Option DefId}
      (hplace : ctx.project.offsetTarget u offset = .ok (.node i))
      (hstyle : ctx.project.isInStyleBlock i = .ok true)
      (hfound : ctx.resolver.forNavigation ctx.project i = .ok found)
      (hnowhere : ctx.project.locationsOf found = [])

namespace MarkupDocument

variable {m : MarkupDocument} {offset : Nat} {id child : TagId}

theorem contains_of_childAt? (h : m.childAt? offset id = some child) :
    (m.tag? child).any (·.span.contains offset) := by
  obtain ⟨tag, -, hfound⟩ := Option.bind_eq_some_iff.mp h
  have hcontains := List.find?_some hfound
  exact hcontains

/-- The search for a tag stays in tags that contain the offset. -/
theorem contains_of_leads {moves : Nat} (h : Leads (m.childAt? offset) moves id child)
    (hstart : (m.tag? id).any (·.span.contains offset)) :
    (m.tag? child).any (·.span.contains offset) := by
  induction h with
  | stop => exact hstart
  | move hmove _ ih => exact ih (contains_of_childAt? hmove)

theorem contains_of_tagAt (h : m.tagAt offset = .ok (some id)) :
    (m.tag? id).any (·.span.contains offset) := by
  unfold tagAt at h
  split at h
  · cases h
  · rename_i root tag hroot
    split at h
    · rename_i hcontains
      obtain ⟨start, -, hstart⟩ := Option.bind_eq_some_iff.mp hroot
      obtain ⟨found, htag, heq⟩ := Option.map_eq_some_iff.mp hstart
      cases heq
      cases hwalk : walk (m.childAt? offset) m.tags.length root with
      | error e =>
          rw [hwalk] at h
          cases h
      | ok found =>
          rw [hwalk] at h
          cases h
          obtain ⟨moves, hleads⟩ := Leads.exists_of_walk hwalk
          exact contains_of_leads hleads (by simpa [htag] using hcontains)
    · cases h

end MarkupDocument

namespace Project

variable {p : Project} {u : UnitId} {offset : Nat} {t : TagId} {tag : MarkupTag}

theorem TagAt.contains (h : p.TagAt u offset t tag) : tag.span.contains offset := by
  obtain ⟨m, -, hat, htag⟩ := h
  have hcontains := MarkupDocument.contains_of_tagAt hat
  rw [htag] at hcontains
  exact hcontains

theorem embeddedNode_of_no_region (h : ∀ region ∈ tag.scriptRegions, ¬ region.covers offset) :
    p.embeddedNode u tag offset = .ok none := by
  have hregion : tag.scriptRegionAt? offset = none := List.find?_eq_none.mpr h
  rw [embeddedNode, hregion]

/-- Inside a tag, the foreign text of the tag starts behind the start tag. -/
theorem TagAt.isInForeignText_iff (h : p.TagAt u offset t tag) :
    tag.isInForeignText offset ↔ tag.role ≠ .component ∧ tag.openSpan.stop ≤ offset := by
  have hstop := (Span.contains_iff.mp h.contains).2
  simp [MarkupTag.isInForeignText, MarkupTag.holdsForeignText, MarkupTag.isInContent, hstop]

/-- A namespace means nothing, unless it is taken for part of a script or style sheet. -/
theorem TagAt.markupTarget_of_isInSpace (h : p.TagAt u offset t tag)
    (hspace : tag.isInSpace offset)
    (hregion : ∀ region ∈ tag.scriptRegions, ¬ region.covers offset) :
    p.markupTarget u offset =
      .ok (if tag.isInForeignText offset then .fallthrough else .nothing) := by
  obtain ⟨m, hm, hat, htag⟩ := h
  have htarget : p.tagTarget u m t tag offset =
      if tag.isInForeignText offset then .fallthrough else .nothing := by
    rw [tagTarget, hspace]
    rfl
  simp only [markupTarget, hm]
  refine Answer.bind_eq_ok.mpr ⟨some t, hat, ?_⟩
  simp only [htag]
  exact Answer.bind_eq_ok.mpr ⟨none, embeddedNode_of_no_region hregion, by rw [htarget]⟩

end Project

namespace Context

variable {ctx : Context} {u : UnitId} {offset : Nat} {t : TagId} {tag : MarkupTag}
variable {document : SourceDocument} {position : Position} {newName : String}

theorem definition_of_nothing (hrunning : ctx.cancelled = false)
    (hmarkup : document.dialect = .markup)
    (hlocate : ctx.project.locate? document position = some ⟨u, offset⟩)
    (htarget : ctx.project.markupTarget u offset = .ok .nothing) :
    ctx.definition document position = .ok .nothing := by
  unfold definition checkpoint
  rw [hrunning, hlocate, hmarkup]
  change (ctx.project.markupTarget u offset >>= fun target => _) = _
  rw [htarget]
  rfl

/-- What is no matter of markup is looked up as script. -/
theorem definition_of_fallthrough (hrunning : ctx.cancelled = false)
    (hmarkup : document.dialect = .markup)
    (hlocate : ctx.project.locate? document position = some ⟨u, offset⟩)
    (htarget : ctx.project.markupTarget u offset = .ok .fallthrough) :
    ctx.definition document position = ctx.scriptDefinition ⟨u, offset⟩ position := by
  unfold definition checkpoint
  rw [hrunning, hlocate, hmarkup]
  change (ctx.project.markupTarget u offset >>= fun target => _) = _
  rw [htarget]
  rfl

/-- The answer to a request once it is known what stands at its place. -/
def renameFound (ctx : Context) (newName : String) : RenameTarget → Answer RenameOutcome
  | .definition d => ctx.renameDefinition d newName
  | .unresolved => .ok .unresolved
  | .nothing => .ok .noTarget

theorem markupRenameTarget_of_nothing (h : ctx.project.markupTarget u offset = .ok .nothing) :
    ctx.markupRenameTarget u offset = .ok .nothing := by
  rw [markupRenameTarget, h]
  rfl

theorem markupRenameTarget_of_fallthrough
    (h : ctx.project.markupTarget u offset = .ok .fallthrough) :
    ctx.markupRenameTarget u offset = ctx.scriptRenameTarget u offset := by
  rw [markupRenameTarget, h]
  rfl

theorem renameDefinition_ne_noTarget {d : DefId} :
    ctx.renameDefinition d newName ≠ .ok .noTarget := by
  intro h
  unfold renameDefinition at h
  dsimp only at h
  split at h
  · cases h
  · split at h
    · cases h
    · obtain ⟨plan, -, h⟩ := Answer.bind_eq_ok.mp h
      cases h

theorem renameFound_eq_noTarget_iff {found : RenameTarget} :
    ctx.renameFound newName found = .ok .noTarget ↔ found = .nothing := by
  cases found with
  | definition d => simp [renameFound, renameDefinition_ne_noTarget]
  | unresolved => simp [renameFound]
  | nothing => simp [renameFound]

theorem rename_of_locate? (hrunning : ctx.cancelled = false)
    (hfallback : ctx.project.isFallback = false)
    (hlocate : ctx.project.locate? document position = some ⟨u, offset⟩) :
    ctx.rename document position newName =
      ctx.renameTargetAt document.dialect u offset >>= ctx.renameFound newName := by
  unfold rename checkpoint
  rw [hrunning, hfallback, hlocate]
  cases document.dialect with
  | script => rfl
  | markup => rfl

/-- A request finds nothing to rename exactly if nothing stands at its place. -/
theorem rename_eq_noTarget_iff (hrunning : ctx.cancelled = false)
    (hfallback : ctx.project.isFallback = false)
    (hlocate : ctx.project.locate? document position = some ⟨u, offset⟩) :
    ctx.rename document position newName = .ok .noTarget ↔
      ctx.renameTargetAt document.dialect u offset = .ok .nothing := by
  rw [rename_of_locate? hrunning hfallback hlocate, Answer.bind_eq_ok]
  constructor
  · rintro ⟨found, hfound, h⟩
    rw [hfound, renameFound_eq_noTarget_iff.mp h]
  · intro h
    exact ⟨.nothing, h, rfl⟩

theorem ofOption_ne_nothing (found : Option DefId) : RenameTarget.ofOption found ≠ .nothing := by
  cases found with
  | none => simp [RenameTarget.ofOption]
  | some d => simp [RenameTarget.ofOption]

/-- In script nothing can be renamed exactly where nothing stands and in style sheets. -/
theorem scriptRenameTarget_eq_nothing_iff :
    ctx.scriptRenameTarget u offset = .ok .nothing ↔
      ctx.project.offsetTarget u offset = .ok .nothing ∨
        ∃ i, ctx.project.offsetTarget u offset = .ok (.node i) ∧
          ctx.project.isInStyleBlock i = .ok true := by
  unfold scriptRenameTarget
  rw [Answer.bind_eq_ok]
  constructor
  · rintro ⟨place, hplace, h⟩
    cases place with
    | node i =>
        obtain ⟨inStyle, hstyle, h⟩ := Answer.bind_eq_ok.mp h
        cases inStyle with
        | true => exact Or.inr ⟨i, hplace, hstyle⟩
        | false =>
            obtain ⟨found, -, h⟩ := Answer.bind_eq_ok.mp h
            exact absurd (Except.ok.inj h) (ofOption_ne_nothing found)
    | docComment index comment => cases h
    | nothing => exact Or.inl hplace
  · rintro (hplace | ⟨i, hplace, hstyle⟩)
    · exact ⟨.nothing, hplace, rfl⟩
    · exact ⟨.node i, hplace, Answer.bind_eq_ok.mpr ⟨true, hstyle, rfl⟩⟩

theorem nodeDefinition_eq_nothing_iff {i : NodeId} (hrunning : ctx.cancelled = false) :
    ctx.nodeDefinition i = .ok .nothing ↔ ∃ found,
      ctx.resolver.forNavigation ctx.project i = .ok found ∧ ctx.project.locationsOf found = [] := by
  unfold nodeDefinition checkpoint
  rw [hrunning, Answer.bind_eq_ok]
  constructor
  · rintro ⟨found, hfound, h⟩
    cases hplaces : ctx.project.locationsOf found with
    | nil => exact ⟨found, hfound, hplaces⟩
    | cons place places =>
        rw [hplaces] at h
        cases h
  · rintro ⟨found, hfound, hnowhere⟩
    refine ⟨found, hfound, ?_⟩
    rw [hnowhere]
    rfl

/-- Both requests find nothing in script exactly where script is silent. -/
theorem silentAt_iff (hrunning : ctx.cancelled = false) :
    ctx.SilentAt u offset ↔ ctx.scriptDefinition ⟨u, offset⟩ position = .ok .nothing ∧
      ctx.scriptRenameTarget u offset = .ok .nothing := by
  rw [scriptRenameTarget_eq_nothing_iff]
  constructor
  · rintro (hplace | ⟨hplace, hstyle, hfound, hnowhere⟩)
    · exact ⟨Answer.bind_eq_ok.mpr ⟨.nothing, hplace, rfl⟩, Or.inl hplace⟩
    · refine ⟨Answer.bind_eq_ok.mpr ⟨_, hplace, ?_⟩, Or.inr ⟨_, hplace, hstyle⟩⟩
      exact (nodeDefinition_eq_nothing_iff hrunning).mpr ⟨_, hfound, hnowhere⟩
  · rintro ⟨hdefinition, hplace | ⟨i, hplace, hstyle⟩⟩
    · exact .empty hplace
    · obtain ⟨place, hplace', hnode⟩ := Answer.bind_eq_ok.mp hdefinition
      obtain rfl := Except.ok.inj (hplace.symm.trans hplace')
      obtain ⟨found, hfound, hnowhere⟩ := (nodeDefinition_eq_nothing_iff hrunning).mp hnode
      exact .style hplace hstyle hfound hnowhere

/-- On the namespace of a tag name, outside of the script regions of the tag, neither request finds
anything in a component, nor in the start tag of a script or style tag. In the end tag of a script
or style tag this is so exactly where script is silent. -/
theorem no_target_on_namespace_iff (hrunning : ctx.cancelled = false)
    (hfallback : ctx.project.isFallback = false) (hmarkup : document.dialect = .markup)
    (hlocate : ctx.project.locate? document position = some ⟨u, offset⟩)
    (htag : ctx.project.TagAt u offset t tag) (hspace : tag.isInSpace offset)
    (hregion : ∀ region ∈ tag.scriptRegions, ¬ region.covers offset) :
    ctx.definition document position = .ok .nothing ∧
        ctx.rename document position newName = .ok .noTarget ↔
      tag.role = .component ∨ offset < tag.openSpan.stop ∨ ctx.SilentAt u offset := by
  have htarget := htag.markupTarget_of_isInSpace hspace hregion
  have hforeign := htag.isInForeignText_iff
  have hrename : ctx.rename document position newName = .ok .noTarget ↔
      ctx.markupRenameTarget u offset = .ok .nothing := by
    rw [rename_eq_noTarget_iff hrunning hfallback hlocate, hmarkup, renameTargetAt]
  by_cases hbody : tag.isInForeignText offset
  · rw [if_pos hbody] at htarget
    obtain ⟨hrole, hbehind⟩ := hforeign.mp hbody
    rw [hrename, definition_of_fallthrough hrunning hmarkup hlocate htarget,
      markupRenameTarget_of_fallthrough htarget, ← silentAt_iff hrunning]
    simp [hrole, Nat.not_lt.mpr hbehind]
  · rw [if_neg hbody] at htarget
    refine iff_of_true ⟨definition_of_nothing hrunning hmarkup hlocate htarget,
      hrename.mpr (markupRenameTarget_of_nothing htarget)⟩ ?_
    by_cases hrole : tag.role = .component
    · exact Or.inl hrole
    · have hbefore : offset < tag.openSpan.stop :=
        Nat.lt_of_not_le fun hbehind => hbody (hforeign.mpr ⟨hrole, hbehind⟩)
      exact Or.inr (Or.inl hbefore)

end Context

namespace NamespaceSample

def text : String := "<s:App><fx:Style>a{}</fx:Style></s:App>"

def app : MarkupTag :=
  ⟨⟨some "s", "App"⟩, .component, ⟨0, 39⟩, ⟨0, 7⟩, ⟨1, 6⟩, some ⟨33, 38⟩, [], [], none, [⟨1⟩]⟩

def style : MarkupTag :=
  ⟨⟨some "fx", "Style"⟩, .style, ⟨7, 31⟩, ⟨7, 17⟩, ⟨8, 16⟩, some ⟨22, 30⟩, [], [], some ⟨0⟩, []⟩

def snapshot : Snapshot where
  units := [⟨⟨"/p/App.mxml"⟩, .markup, some text, some ⟨0⟩, .ready [], none, [],
    some ⟨⟨"/p/App.mxml"⟩, [app, style], some ⟨0⟩⟩⟩]
  nodes := [⟨.other, ⟨0, 39⟩, none, [⟨1⟩]⟩, ⟨.styleBlock, ⟨17, 20⟩, some ⟨0⟩, []⟩]

def context : Context where
  project := .ofSnapshot {} snapshot

def document : SourceDocument := ⟨⟨"/p/App.mxml"⟩, .markup, text⟩

end NamespaceSample

namespace Context

/-- In the start tag of the style sheet nothing is found. -/
theorem no_target_on_namespace_iff_of_sample :
    NamespaceSample.context.project.TagAt ⟨0⟩ 8 ⟨1⟩ NamespaceSample.style ∧
      NamespaceSample.style.isInSpace 8 ∧
      NamespaceSample.context.definition NamespaceSample.document ⟨0, 8⟩ = .ok .nothing ∧
      NamespaceSample.context.rename NamespaceSample.document ⟨0, 8⟩ "x" = .ok .noTarget := by
  have hlocate : NamespaceSample.context.project.locate? NamespaceSample.document ⟨0, 8⟩ =
      some ⟨⟨0⟩, 8⟩ := rfl
  have htag : NamespaceSample.context.project.TagAt ⟨0⟩ 8 ⟨1⟩ NamespaceSample.style :=
    ⟨_, rfl, rfl, rfl⟩
  have hspace : NamespaceSample.style.isInSpace 8 := by decide
  exact ⟨htag, hspace, (no_target_on_namespace_iff rfl rfl rfl hlocate htag hspace (by decide)).mpr
    (Or.inr (Or.inl (by decide)))⟩

/-- In its end tag the namespace is taken for a part of the style sheet. The syntax tree spans the
whole document, so a request to rename the namespace finds a node there and cannot resolve it. -/
theorem rename_unresolved_on_namespace :
    NamespaceSample.context.project.locate? NamespaceSample.document ⟨0, 22⟩ = some ⟨⟨0⟩, 22⟩ ∧
      NamespaceSample.context.project.TagAt ⟨0⟩ 22 ⟨1⟩ NamespaceSample.style ∧
      NamespaceSample.style.isInSpace 22 ∧ NamespaceSample.style.scriptRegions = [] ∧
      NamespaceSample.context.rename NamespaceSample.document ⟨0, 22⟩ "x" = .ok .unresolved :=
  ⟨rfl, ⟨_, rfl, rfl, rfl⟩, by decide, rfl, rfl⟩

end Context

end SymbolNav
