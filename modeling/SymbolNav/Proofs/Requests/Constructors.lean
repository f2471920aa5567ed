import SymbolNav.Proofs.Rename.Overrides
import SymbolNav.Proofs.Requests.Includes
import SymbolNav.Proofs.Requests.Namespaces

/-!
# Classes and their constructors in both requests

A class that is named in a `new` expression stands for its constructor when its definition is asked
for, and for itself when it is renamed. The difference does not show in what is renamed: the
constructor is exchanged for its class again, through the links from a class to its constructor and
from the constructor back to its parent. This needs constructors that are functions of their own
class and override nothing. Then every identifier means the same to both requests, and so does every
place in a script or in the script of a markup document where an identifier stands.
-/

namespace SymbolNav

/-- No constructor is marked as an override. -/
def Project.ConstructorsAreBase (p : Project) : Prop :=
  ∀ {owner constructor : DefId} {definition function : Definition},
    p.definition? owner = some definition → definition.constructor? = some constructor →
    p.definition? constructor = some function → function.isOverride = false

/-- A request at the position of the document is about the node: the document is a script or the
position is no matter of markup, and the node is not part of a style sheet, or the document is
markup that holds the node in its script. -/
inductive Context.FindsNode (ctx : Context) (document : SourceDocument) (position : Position)
    (i : NodeId) : Prop where
  | script {u : UnitId} {offset : Nat} (hdialect : document.dialect = .script)
      (hlocate : ctx.project.locate? document position = some ⟨u, offset⟩)
      (hplace : ctx.project.offsetTarget u offset = .ok (.node i))
      (hstyle : ctx.project.isInStyleBlock i = .ok false)
  | fallthrough {u : UnitId} {offset : Nat} (hdialect : document.dialect = .markup)
      (hlocate : ctx.project.locate? document position = some ⟨u, offset⟩)
      (hmarkup : ctx.project.markupTarget u offset = .ok .fallthrough)
      (hplace : ctx.project.offsetTarget u offset = .ok (.node i))
      (hstyle : ctx.project.isInStyleBlock i = .ok false)
  | embedded {u : UnitId} {offset : Nat} (hdialect : document.dialect = .markup)
      (hlocate : ctx.project.locate? document position = some ⟨u, offset⟩)
      (hmarkup : ctx.project.markupTarget u offset = .ok (.script i))

variable {ctx : Context} {p : Project} {r : Resolver} {d d' : DefId} {i : NodeId}
  {node : SyntaxNode}

theorem Definition.isOverride_of_constructor? {definition : Definition} {constructor : DefId}
    (h : definition.constructor? = some constructor) : definition.isOverride = false := by
  unfold constructor? at h
  split at h
  · rename_i hkind
    rw [isOverride, hkind]
  · cases h

namespace Project

/-- What is not marked as an override has been introduced where it is declared. -/
theorem baseDeclaration_of_isOverride_eq_false {definition : Definition}
    (hdefinition : p.definition? d = some definition) (h : definition.isOverride = false) :
    p.baseDeclaration d = d := by
  have hroot : ∀ base, ¬ p.Overrides d base := by
    rintro base ⟨⟨found, hfound, hmarked⟩, -, -⟩
    obtain rfl := Option.some.inj (hdefinition.symm.trans hfound)
    rw [h] at hmarked
    cases hmarked
  exact (OverrideChain.root hroot).baseWithin_eq (Nat.zero_le _)

/-- For navigation a definition stands for itself or, if it is a class, for its constructor. -/
theorem preferConstructor_eq_or (p : Project) (i : NodeId) (d : DefId) :
    p.preferConstructor i d = d ∨
      ∃ definition, p.definition? d = some definition ∧
        definition.constructor? = some (p.preferConstructor i d) := by
  unfold preferConstructor
  split
  · cases hfound : (p.definition? d).bind (·.constructor?) with
    | none => exact Or.inl rfl
    | some constructor => exact Or.inr (Option.bind_eq_some_iff.mp hfound)
  · exact Or.inl rfl

/-- Renaming undoes the exchange of a class for its constructor. -/
theorem renameTarget_preferConstructor (hbelong : p.ConstructorsBelong)
    (hbase : p.ConstructorsAreBase) (i : NodeId) (d : DefId) :
    p.renameTarget (p.baseDeclaration (p.preferConstructor i d)) =
      p.renameTarget (p.baseDeclaration d) := by
  rcases p.preferConstructor_eq_or i d with hself | ⟨owner, howner, hconstructor⟩
  · rw [hself]
  · obtain ⟨function, hfunction, -, -⟩ := hbelong howner hconstructor
    have hplain := hbase howner hconstructor hfunction
    have hclass := Definition.isOverride_of_constructor? hconstructor
    rw [baseDeclaration_of_isOverride_eq_false hfunction hplain,
      baseDeclaration_of_isOverride_eq_false howner hclass,
      renameTarget_constructor hbelong howner hconstructor,
      renameTarget_of_constructor? howner hconstructor]

end Project

namespace Resolver

/-- For navigation an identifier means what it means for renaming, except for constructors. -/
theorem forNavigation_of_isIdentifier (hnode : p.node? i = some node) (hident : node.isIdentifier) :
    r.forNavigation p i = (r.forRename p i).map (·.map (p.preferConstructor i)) := by
  rw [forRename_of_isIdentifier hnode hident]
  obtain ⟨name, hname⟩ : ∃ name, node.kind = .identifier name := by
    unfold SyntaxNode.isIdentifier SyntaxNode.identifier? at hident
    split at hident
    · exact ⟨_, ‹_›⟩
    · cases hident
  simp only [forNavigation, hnode, hname]
  cases r.identifier p i with
  | error e => rfl
  | ok found => rfl

end Resolver

namespace Context

variable {document : SourceDocument} {position : Position} {newName : String}

theorem scriptDefinition_of_node {located : Located}
    (hplace : ctx.project.offsetTarget located.unit located.offset = .ok (.node i)) :
    ctx.scriptDefinition located position = ctx.nodeDefinition i := by
  rw [scriptDefinition, hplace]
  rfl

theorem scriptRenameTarget_of_node {u : UnitId} {offset : Nat}
    (hplace : ctx.project.offsetTarget u offset = .ok (.node i))
    (hstyle : ctx.project.isInStyleBlock i = .ok false) :
    ctx.scriptRenameTarget u offset =
      (ctx.resolver.forRename ctx.project i).map RenameTarget.ofOption := by
  rw [scriptRenameTarget, hplace]
  simp only [bind, Except.bind, hstyle]
  cases ctx.resolver.forRename ctx.project i with
  | error e => rfl
  | ok found => rfl

theorem markupRenameTarget_of_script {u : UnitId} {offset : Nat}
    (hmarkup : ctx.project.markupTarget u offset = .ok (.script i)) :
    ctx.markupRenameTarget u offset =
      (ctx.resolver.forRename ctx.project i).map RenameTarget.ofOption := by
  rw [markupRenameTarget, hmarkup]
  cases hfound : ctx.resolver.forRename ctx.project i with
  | error e => simp [bind, Except.bind, hfound, Except.map]
  | ok found => simp [bind, Except.bind, hfound, Except.map]

namespace FindsNode

theorem definition_eq (h : ctx.FindsNode document position i) (hrunning : ctx.cancelled = false) :
    ctx.definition document position = ctx.nodeDefinition i := by
  cases h with
  | script hdialect hlocate hplace _ =>
      rw [definition_of_locate? hdialect hlocate, hrunning]
      exact scriptDefinition_of_node hplace
  | fallthrough hdialect hlocate hmarkup hplace _ =>
      rw [definition_of_fallthrough hrunning hdialect hlocate hmarkup]
      exact scriptDefinition_of_node hplace
  | @embedded u offset hdialect hlocate hmarkup =>
      unfold definition checkpoint
      rw [hrunning, hlocate, hdialect]
      change (ctx.project.markupTarget u offset >>= fun target => _) = _
      rw [hmarkup]
      rfl

theorem rename_eq (h : ctx.FindsNode document position i) (hrunning : ctx.cancelled = false)
    (hfallback : ctx.project.isFallback = false) :
    ctx.rename document position newName =
      (ctx.resolver.forRename ctx.project i).map RenameTarget.ofOption >>=
        ctx.renameFound newName := by
  cases h with
  | script hdialect hlocate hplace hstyle =>
      rw [rename_of_locate? hrunning hfallback hlocate, hdialect, renameTargetAt,
        scriptRenameTarget_of_node hplace hstyle]
  | fallthrough hdialect hlocate hmarkup hplace hstyle =>
      rw [rename_of_locate? hrunning hfallback hlocate, hdialect, renameTargetAt,
        markupRenameTarget_of_fallthrough hmarkup, scriptRenameTarget_of_node hplace hstyle]
  | embedded hdialect hlocate hmarkup =>
      rw [rename_of_locate? hrunning hfallback hlocate, hdialect, renameTargetAt,
        markupRenameTarget_of_script hmarkup]

end FindsNode

/-- Both requests agree on what an identifier means. It resolves for navigation exactly if it does
for renaming, fails to be answered for the same reason, and what it resolves to is renamed with the
same result. So a request to rename the identifier is answered with the plan of the definition whose
places are the answer to going to its definition. -/
theorem navigation_agrees_with_rename (hbelong : ctx.project.ConstructorsBelong)
    (hbase : ctx.project.ConstructorsAreBase) (hnode : ctx.project.node? i = some node)
    (hident : node.isIdentifier) (newName : String) :
    ((∃ d', ctx.resolver.forNavigation ctx.project i = .ok (some d')) ↔
        ∃ d, ctx.resolver.forRename ctx.project i = .ok (some d)) ∧
      (∀ e, ctx.resolver.forNavigation ctx.project i = .error e ↔
        ctx.resolver.forRename ctx.project i = .error e) ∧
      ∀ d' d, ctx.resolver.forNavigation ctx.project i = .ok (some d') →
        ctx.resolver.forRename ctx.project i = .ok (some d) →
        ctx.renameDefinition d' newName = ctx.renameDefinition d newName ∧
        ∀ document position, ctx.FindsNode document position i → ctx.cancelled = false →
          ctx.project.isFallback = false →
          ctx.definition document position = .ok (.locations (ctx.project.locations d')) ∧
          ctx.rename document position newName = ctx.renameDefinition d' newName := by
  rw [Resolver.forNavigation_of_isIdentifier hnode hident]
  cases hfound : ctx.resolver.forRename ctx.project i with
  | error e => simp [Except.map]
  | ok found =>
      refine ⟨by simp [Except.map], by simp [Except.map], ?_⟩
      intro d' d hnavigation hrename
      cases hrename
      cases hnavigation
      have hsame : ctx.renameDefinition (ctx.project.preferConstructor i d) newName =
          ctx.renameDefinition d newName :=
        renameDefinition_congr (Project.renameTarget_preferConstructor hbelong hbase i d)
      refine ⟨hsame, ?_⟩
      intro document position hfinds hrunning hfallback
      have hnavigation := Resolver.forNavigation_of_isIdentifier (r := ctx.resolver) hnode hident
      rw [hfound] at hnavigation
      constructor
      · rw [hfinds.definition_eq hrunning, nodeDefinition, hnavigation, checkpoint, hrunning]
        rfl
      · rw [hfinds.rename_eq hrunning hfallback, hfound, hsame]
        rfl

end Context

namespace NewSample

/-! The sample class again, with a `new` expression behind it. -/

def text : String := "class Dot { function Dot() {} } new Dot()"

def snapshot : Snapshot where
  units := [⟨⟨"/p/Dot.as"⟩, .script, some text, some ⟨0⟩, .ready [⟨0⟩], none, [], none⟩]
  nodes := [⟨.other, ⟨0, 41⟩, none, [⟨1⟩, ⟨2⟩, ⟨3⟩]⟩, ⟨.identifier "Dot", ⟨6, 9⟩, some ⟨0⟩, []⟩,
    ⟨.identifier "Dot", ⟨21, 24⟩, some ⟨0⟩, []⟩, ⟨.call true, ⟨32, 41⟩, some ⟨0⟩, [⟨4⟩]⟩,
    ⟨.identifier "Dot", ⟨36, 39⟩, some ⟨3⟩, []⟩]
  definitions := [Sample.dot, Sample.dotConstructor]
  bindings := [⟨⟨1⟩, ⟨0⟩⟩, ⟨⟨2⟩, ⟨1⟩⟩, ⟨⟨4⟩, ⟨0⟩⟩]

def context : Context where
  project := .ofSnapshot {} snapshot

def document : SourceDocument := ⟨⟨"/p/Dot.as"⟩, .script, text⟩

theorem constructorsBelong : context.project.ConstructorsBelong := Sample.constructorsBelong

theorem constructorsAreBase : context.project.ConstructorsAreBase := by
  rintro ⟨_ | _ | owner⟩ constructor definition function hdefinition hconstructor hfunction
  · cases hdefinition
    cases hconstructor
    cases hfunction
    rfl
  · cases hdefinition
    cases hconstructor
  · cases hdefinition

end NewSample

/-- The class in the `new` expression. Its definition is asked for with the constructor in its
place, and both are renamed alike. -/
theorem Context.navigation_agrees_with_rename_of_sample :
    NewSample.context.resolver.forNavigation NewSample.context.project ⟨4⟩ = .ok (some ⟨1⟩) ∧
      NewSample.context.resolver.forRename NewSample.context.project ⟨4⟩ = .ok (some ⟨0⟩) ∧
      NewSample.context.renameDefinition ⟨1⟩ "Spot" =
        NewSample.context.renameDefinition ⟨0⟩ "Spot" ∧
      NewSample.context.definition NewSample.document ⟨0, 37⟩ =
        .ok (.locations [⟨"file:///p/Dot.as", ⟨⟨0, 21⟩, ⟨0, 24⟩⟩⟩]) ∧
      NewSample.context.rename NewSample.document ⟨0, 37⟩ "Spot" =
        NewSample.context.renameDefinition ⟨1⟩ "Spot" := by
  have hnode : NewSample.context.project.node? ⟨4⟩ =
      some ⟨.identifier "Dot", ⟨36, 39⟩, some ⟨3⟩, []⟩ := rfl
  obtain ⟨-, -, hagree⟩ := Context.navigation_agrees_with_rename NewSample.constructorsBelong
    NewSample.constructorsAreBase hnode rfl "Spot"
  obtain ⟨hplan, hrequest⟩ := hagree ⟨1⟩ ⟨0⟩ rfl rfl
  have hlocate :
      NewSample.context.project.locate? NewSample.document ⟨0, 37⟩ = some ⟨⟨0⟩, 37⟩ := rfl
  have hfinds : NewSample.context.FindsNode NewSample.document ⟨0, 37⟩ ⟨4⟩ :=
    .script rfl hlocate rfl rfl
  exact ⟨rfl, rfl, hplan, hrequest _ _ hfinds rfl rfl⟩

end SymbolNav
