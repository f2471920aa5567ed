import SymbolNav.Navigation.Definition
import SymbolNav.Proofs.Rename.Confinement
import SymbolNav.Rename.Request

/-!
# File scopes that failed

A file scope that could not be computed counts as one without definitions, and its unit as one
without a root class. `Alike` lists all that requests ask of a project; projects that are alike get
the same answers. Putting empty scopes in place of failed ones gives a project that is alike, so a
failure never shows in an answer, never ends a request, and its reason never matters. This is so for
the standard resolvers; a further fallback can ask for a file scope itself and see that it failed.
-/

namespace SymbolNav

/-- A unit with an empty file scope and without a root class, if its file scope failed. -/
def UnitSnapshot.withoutFailure (u : UnitSnapshot) : UnitSnapshot :=
  match u.scope with
  | .ready _ => u
  | .failed _ => { u with scope := .ready [], rootDefinition := none }

/-- The snapshot in which the chosen units have empty file scopes where theirs failed. -/
def Snapshot.withoutFailures (s : Snapshot) (chosen : UnitId → Bool) : Snapshot :=
  { s with units := s.units.mapIdx fun index u =>
      if chosen ⟨index⟩ then u.withoutFailure else u }

/-- All that requests ask of a project has the same answer in both. -/
structure Project.Alike (p q : Project) : Prop extends SameSymbols p q where
  isFallback : p.isFallback = q.isFallback
  files : p.unitForPath? = q.unitForPath?
  splices : p.includeSplice? = q.includeSplice?
  comments : p.docComments = q.docComments
  unit : ∀ u, p.SameUnit q u

variable {ctx : Context} {p q : Project}

namespace Project.Alike

theorem locate?_eq (h : p.Alike q) : p.locate? = q.locate? := by
  funext document position
  simp only [locate?, h.splices, h.files]

theorem offsetTarget_eq (h : p.Alike q) : p.offsetTarget = q.offsetTarget := by
  funext u offset
  simp only [offsetTarget, h.comments, (h.unit u).ast, h.innermostNode_eq]

theorem markupTarget_eq (h : p.Alike q) : p.markupTarget = q.markupTarget := by
  funext u offset
  have hnode : p.embeddedNode u = q.embeddedNode u := by
    funext tag offset
    simp only [embeddedNode, (h.unit u).ast, h.innermostNode_eq, h.node?_eq]
  have htarget : p.tagTarget u = q.tagTarget u := by
    funext m id tag offset
    simp only [tagTarget, boundName?, h.tagBinding?_eq, h.attributeBinding?_eq]
  simp only [markupTarget, (h.unit u).markup, hnode, htarget]

theorem idField?_eq (h : p.Alike q) : p.idField? = q.idField? := by
  funext u tag index
  simp only [idField?, (h.unit u).markup, h.topLevel_eq, h.defines_eq, h.definition?_eq]

theorem locationsOf_eq (h : p.Alike q) : p.locationsOf = q.locationsOf := by
  have hrange : p.editorRange? = q.editorRange? := by
    funext u
    exact (h.unit u).editorRange?_eq
  funext d
  simp only [locationsOf, locations, h.definition?_eq, h.files, hrange]

end Project.Alike

namespace Context

/-- Going to a definition gives the same answer on projects that are alike. -/
theorem definition_eq_of_alike (h : p.Alike q) (hr : ctx.resolver.SameOn p q) :
    (ctx.withProject p).definition = (ctx.withProject q).definition := by
  have hnode : (ctx.withProject p).nodeDefinition = (ctx.withProject q).nodeDefinition := by
    funext node
    simp only [nodeDefinition, withProject_project, withProject_resolver, h.forNavigation_eq hr,
      h.locationsOf_eq]
    rfl
  have hscript : (ctx.withProject p).scriptDefinition = (ctx.withProject q).scriptDefinition := by
    funext located position
    simp only [scriptDefinition, withProject_project, h.offsetTarget_eq, h.docReference?_eq,
      h.locationsOf_eq, hnode]
    rfl
  funext document position
  simp only [definition, withProject_project, h.locate?_eq, h.markupTarget_eq, h.locationsOf_eq,
    hnode, hscript]
  rfl

/-- Renaming gives the same answer on projects that are alike. -/
theorem rename_eq_of_alike (h : p.Alike q) (hr : ctx.resolver.SameOn p q) :
    (ctx.withProject p).rename = (ctx.withProject q).rename := by
  have hscript : (ctx.withProject p).scriptRenameTarget =
      (ctx.withProject q).scriptRenameTarget := by
    funext u offset
    simp only [scriptRenameTarget, withProject_project, withProject_resolver, h.offsetTarget_eq,
      h.isInStyleBlock_eq, h.forRename_eq hr]
  have hmarkup : (ctx.withProject p).markupRenameTarget =
      (ctx.withProject q).markupRenameTarget := by
    funext u offset
    simp only [markupRenameTarget, withProject_project, withProject_resolver, h.markupTarget_eq,
      h.idField?_eq, h.forRename_eq hr, hscript]
  have hplan : (ctx.withProject p).renameDefinition = (ctx.withProject q).renameDefinition := by
    funext d newName
    exact renameDefinition_eq h.toSameSymbols hr rfl h.files (funext fun u => (h.unit u).kind)
      fun _ _ u _ => h.unit u
  funext document position newName
  unfold rename
  rw [hscript, hmarkup, hplan, withProject_project, withProject_project, h.locate?_eq, h.isFallback]
  rfl

end Context

/-! ### Empty scopes in place of failed ones -/

namespace UnitSnapshot

/-- The root class of a unit, where its file scope is known. -/
def knownRoot (u : UnitSnapshot) : Option DefId :=
  match u.scope with
  | .ready _ => u.rootDefinition
  | .failed _ => none

/-- Nothing that requests read of a unit is changed with its scope. -/
structure Unchanged (u v : UnitSnapshot) : Prop where
  path : u.path = v.path
  kind : u.kind = v.kind
  text : u.text = v.text
  ast : u.ast = v.ast
  docComments : u.docComments = v.docComments
  markup : u.markup = v.markup
  declared : u.scope.declared = v.scope.declared
  knownRoot : u.knownRoot = v.knownRoot

theorem unchanged_withoutFailure (u : UnitSnapshot) : u.Unchanged u.withoutFailure := by
  unfold withoutFailure
  cases hscope : u.scope with
  | ready definitions => constructor <;> rfl
  | failed reason => constructor <;> simp [FileScope.declared, knownRoot, hscope]

end UnitSnapshot

namespace Project

variable {s : Snapshot} {chosen : UnitId → Bool}

theorem rootDefinition?_eq (p : Project) (u : UnitId) :
    p.rootDefinition? u = (p.unit? u).bind (·.knownRoot) := by
  unfold rootDefinition? rootDefinition fileScope
  cases p.unit? u with
  | none => rfl
  | some unit =>
      simp only [Option.bind_some, UnitSnapshot.knownRoot]
      cases unit.scope <;> rfl

/-- What is read of a unit is the same after its failed scope has been replaced. -/
theorem map_units_withoutFailures {β : Type} {f : UnitSnapshot → β}
    (hf : ∀ unit, f unit = f unit.withoutFailure) :
    s.units.map f = (s.withoutFailures chosen).units.map f := by
  refine List.ext_getElem? fun index => ?_
  simp only [Snapshot.withoutFailures, List.getElem?_map, List.getElem?_mapIdx, Option.map_map]
  refine congrArg (Option.map · _) (funext fun unit => ?_)
  rw [Function.comp_apply]
  split
  · exact hf unit
  · rfl

theorem map_unit?_withoutFailures {β : Type} {f : UnitSnapshot → β} (disk : FileTree)
    (chosen : UnitId → Bool) (u : UnitId) (hf : ∀ unit, f unit = f unit.withoutFailure) :
    ((ofSnapshot disk s).unit? u).map f =
      ((ofSnapshot disk (s.withoutFailures chosen)).unit? u).map f := by
  have hunits : s.units.map f = (s.withoutFailures chosen).units.map f :=
    map_units_withoutFailures hf
  have hunits := congrArg (·[u.index]?) hunits
  simp only [List.getElem?_map] at hunits
  exact hunits

theorem bind_unit?_withoutFailures {β : Type} {f : UnitSnapshot → Option β} (disk : FileTree)
    (chosen : UnitId → Bool) (u : UnitId) (hf : ∀ unit, f unit = f unit.withoutFailure) :
    ((ofSnapshot disk s).unit? u).bind f =
      ((ofSnapshot disk (s.withoutFailures chosen)).unit? u).bind f := by
  have hunit := congrArg (·.bind id) (map_unit?_withoutFailures (s := s) disk chosen u hf)
  simp only [Option.bind_map, Function.id_comp] at hunit
  exact hunit

theorem sameUnit_withoutFailures (disk : FileTree) (s : Snapshot) (chosen : UnitId → Bool)
    (u : UnitId) : (ofSnapshot disk s).SameUnit (ofSnapshot disk (s.withoutFailures chosen)) u where
  path := map_unit?_withoutFailures disk chosen u fun unit => unit.unchanged_withoutFailure.path
  kind := map_unit?_withoutFailures disk chosen u fun unit => unit.unchanged_withoutFailure.kind
  ast := bind_unit?_withoutFailures disk chosen u fun unit => unit.unchanged_withoutFailure.ast
  markup :=
    bind_unit?_withoutFailures disk chosen u fun unit => unit.unchanged_withoutFailure.markup
  rootDefinition := by
    rw [rootDefinition?_eq, rootDefinition?_eq,
      bind_unit?_withoutFailures disk chosen u fun unit => unit.unchanged_withoutFailure.knownRoot]
  text := by
    have htext : ∀ unit : UnitSnapshot,
        unitText? disk unit = unitText? disk unit.withoutFailure := by
      intro unit
      have h := unit.unchanged_withoutFailure
      rw [unitText?, unitText?, h.text, h.kind, h.path]
    have htexts : (ofSnapshot disk s).texts = (ofSnapshot disk (s.withoutFailures chosen)).texts :=
      map_units_withoutFailures htext
    rw [text?, text?, htexts]

theorem alike_withoutFailures (disk : FileTree) (s : Snapshot) (chosen : UnitId → Bool) :
    (ofSnapshot disk s).Alike (ofSnapshot disk (s.withoutFailures chosen)) where
  nodes := rfl
  definitions := rfl
  bindings := rfl
  tagBindings := rfl
  overrides := rfl
  units := by
    have hlength : (s.withoutFailures chosen).units.length = s.units.length := List.length_mapIdx
    rw [units, units]
    exact congrArg (fun n => (List.range n).map UnitId.mk) hlength.symm
  scopes := by
    funext u
    rw [scopeOrEmpty_eq, scopeOrEmpty_eq,
      map_unit?_withoutFailures disk chosen u fun unit => unit.unchanged_withoutFailure.declared]
  isFallback := rfl
  files := unitForPath?_congr <|
    map_units_withoutFailures fun unit => unit.unchanged_withoutFailure.path
  splices := rfl
  comments := by
    funext u
    rw [docComments, docComments,
      map_unit?_withoutFailures disk chosen u fun unit => unit.unchanged_withoutFailure.docComments]
  unit := sameUnit_withoutFailures disk s chosen

end Project

/-- A failed file scope is no data and nothing else. Whichever units have empty scopes in place of
failed ones, both requests are answered in the same way, as long as no fallback of the resolver but
the standard one tells the projects apart. -/
theorem Context.requests_eq_without_failures (ctx : Context) (disk : FileTree) (s : Snapshot)
    (chosen : UnitId → Bool)
    (hresolver : ctx.resolver.SameOn (.ofSnapshot disk s)
      (.ofSnapshot disk (s.withoutFailures chosen)))
    (document : SourceDocument) (position : Position) (newName : String) :
    (ctx.withProject (.ofSnapshot disk s)).definition document position =
        (ctx.withProject (.ofSnapshot disk (s.withoutFailures chosen))).definition document
          position ∧
      (ctx.withProject (.ofSnapshot disk s)).rename document position newName =
        (ctx.withProject (.ofSnapshot disk (s.withoutFailures chosen))).rename document position
          newName := by
  have halike := Project.alike_withoutFailures disk s chosen
  rw [Context.definition_eq_of_alike halike hresolver, Context.rename_eq_of_alike halike hresolver]
  exact ⟨rfl, rfl⟩

namespace BrokenSample

/-! A unit whose file scope failed, in front of the one that declares the class `p.Dot`. The class
is named in full in its own file, without a binding, so the name is looked up in all file scopes. -/

def dot : Definition :=
  ⟨"Dot", "p.Dot", .classType none [], .pub, ⟨"/p/Dot.as"⟩, some ⟨0⟩, some ⟨2, 5⟩⟩

def broken : UnitSnapshot :=
  ⟨⟨"/p/Broken.as"⟩, .script, some "", none, .failed "out of memory", some ⟨1⟩, [], none⟩

def snapshot : Snapshot where
  units := [broken,
    ⟨⟨"/p/Dot.as"⟩, .script, some "p.Dot", some ⟨0⟩, .ready [⟨0⟩], none, [], none⟩]
  nodes := [⟨.memberAccess ⟨1⟩ ⟨2⟩, ⟨0, 5⟩, none, [⟨1⟩, ⟨2⟩]⟩,
    ⟨.identifier "p", ⟨0, 1⟩, some ⟨0⟩, []⟩, ⟨.identifier "Dot", ⟨2, 5⟩, some ⟨0⟩, []⟩]
  definitions := [⟨"p", "p", .package [⟨1⟩], .pub, ⟨"/p/Dot.as"⟩, none, none⟩, dot]

def context : Context where
  project := .ofSnapshot {} snapshot

def document : SourceDocument :=
  ⟨⟨"/p/Dot.as"⟩, .script, "p.Dot"⟩

def dotLocation : Location :=
  ⟨"file:///p/Dot.as", ⟨⟨0, 2⟩, ⟨0, 5⟩⟩⟩

def spotPlan : RenamePlan where
  documents := [⟨⟨"/p/Dot.as"⟩, [⟨⟨⟨0, 2⟩, ⟨0, 5⟩⟩, "Spot"⟩]⟩]
  fileRename := some ⟨⟨"/p/Dot.as"⟩, ⟨"/p/Spot.as"⟩⟩

theorem definition_dot : context.definition document ⟨0, 3⟩ = .ok (.locations [dotLocation]) := by
  rfl

theorem rename_dot : context.rename document ⟨0, 3⟩ "Spot" = .ok (.edit spotPlan) := by
  have hbroken : context.scanUnit ⟨1⟩ dot "Spot" {} ⟨0⟩ = .ok {} := by
    refine Context.scanUnit_eq_ok.mpr ⟨rfl, Or.inr ⟨⟨"/p/Broken.as"⟩, [], rfl, rfl, rfl, ?_⟩⟩
    rw [Context.unitEdits, Rename.disjoint_eq_self (by decide) (by decide)]
    rfl
  have hscan : context.scanUnit ⟨1⟩ dot "Spot" {} ⟨1⟩ = .ok spotPlan := by
    refine Context.scanUnit_eq_ok.mpr ⟨rfl, Or.inr ⟨⟨"/p/Dot.as"⟩, [⟨2, 5⟩], rfl, rfl, rfl, ?_⟩⟩
    rw [Context.unitEdits, Rename.disjoint_eq_self (by decide) (by decide)]
    rfl
  have hplan : context.renameDefinition ⟨1⟩ "Spot" = .ok (.edit spotPlan) := by
    refine Context.renameDefinition_eq_edit.mpr ⟨dot, rfl, rfl, ?_⟩
    exact Answer.bind_eq_ok.mpr ⟨_, hbroken, Answer.bind_eq_ok.mpr ⟨_, hscan, rfl⟩⟩
  exact hplan

end BrokenSample

/-- With an empty scope in place of the failed one, the class is found and renamed as before. -/
theorem Context.requests_eq_without_failures_of_sample :
    (BrokenSample.snapshot.withoutFailures fun _ => true) ≠ BrokenSample.snapshot ∧
      (BrokenSample.context.withProject
          (.ofSnapshot {} (BrokenSample.snapshot.withoutFailures fun _ => true))).definition
        BrokenSample.document ⟨0, 3⟩ = .ok (.locations [BrokenSample.dotLocation]) ∧
      (BrokenSample.context.withProject
          (.ofSnapshot {} (BrokenSample.snapshot.withoutFailures fun _ => true))).rename
        BrokenSample.document ⟨0, 3⟩ "Spot" = .ok (.edit BrokenSample.spotPlan) := by
  obtain ⟨hdefinition, hrename⟩ := Context.requests_eq_without_failures BrokenSample.context {}
    BrokenSample.snapshot (fun _ => true) (Resolver.sameOn_standard _ _) BrokenSample.document
    ⟨0, 3⟩ "Spot"
  refine ⟨by decide, ?_, ?_⟩
  · exact hdefinition.symm.trans BrokenSample.definition_dot
  · exact hrename.symm.trans BrokenSample.rename_dot

namespace BrokenSample

/-- A fallback that takes every identifier for the class as long as the first file scope fails. -/
def whileBroken (p : Project) (_ : NodeId) : Answer (Option DefId) :=
  match p.fileScope ⟨0⟩ with
  | .error _ => .ok (some ⟨1⟩)
  | .ok _ => .ok none

def watching : Context :=
  { context with resolver := ⟨[whileBroken]⟩ }

end BrokenSample

/-- A fallback that asks for the failed scope itself shows the failure: the class is found as long
as the scope has failed, and no longer when an empty scope stands in its place. -/
theorem Context.definition_lost_without_failures :
    (BrokenSample.watching.withProject (.ofSnapshot {} BrokenSample.snapshot)).definition
        BrokenSample.document ⟨0, 3⟩ = .ok (.locations [BrokenSample.dotLocation]) ∧
      (BrokenSample.watching.withProject
          (.ofSnapshot {} (BrokenSample.snapshot.withoutFailures fun _ => true))).definition
        BrokenSample.document ⟨0, 3⟩ = .ok .nothing :=
  ⟨rfl, rfl⟩

end SymbolNav
