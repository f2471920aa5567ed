import SymbolNav.Proofs.Navigation.Agreement
import SymbolNav.Proofs.Rename.Plan

/-!
# Renaming what one file alone can see

A definition that is private or local is renamed in the unit of its own file and nowhere else. The
plan has at most the batch of that unit, and it does not depend on what the other units hold: of
them the search reads only where they are, what they were compiled from and what they declare at
their top.
-/

namespace SymbolNav

/-- The same request, asked of another project. -/
def Context.withProject (ctx : Context) (p : Project) : Context :=
  { ctx with project := p }

/-- The two snapshots have the same symbols, and units of the same paths, kinds and file scopes. The
texts, trees, markup and comments of the units may differ. -/
structure Snapshot.SameOutline (s t : Snapshot) : Prop where
  paths : s.units.map (·.path) = t.units.map (·.path)
  kinds : s.units.map (·.kind) = t.units.map (·.kind)
  scopes : s.units.map (·.scope) = t.units.map (·.scope)
  nodes : s.nodes = t.nodes
  definitions : s.definitions = t.definitions
  bindings : s.bindings = t.bindings
  tagBindings : s.tagBindings = t.tagBindings
  overrides : s.overrides = t.overrides

/-- The definitions of a file scope, none where it failed. -/
def FileScope.declared : FileScope → List DefId
  | .ready definitions => definitions
  | .failed _ => []

/-- The search of the unit reads the same in both projects. -/
structure Project.SameUnit (p q : Project) (u : UnitId) : Prop where
  path : p.unitPath? u = q.unitPath? u
  kind : p.unitKind? u = q.unitKind? u
  ast : p.ast? u = q.ast? u
  markup : p.markup? u = q.markup? u
  rootDefinition : p.rootDefinition? u = q.rootDefinition? u
  text : p.text? u = q.text? u

namespace Context

@[simp] theorem withProject_project (ctx : Context) (p : Project) :
    (ctx.withProject p).project = p := rfl

@[simp] theorem withProject_resolver (ctx : Context) (p : Project) :
    (ctx.withProject p).resolver = ctx.resolver := rfl

end Context

variable {ctx : Context} {p q : Project} {u : UnitId} {targets : List DefId} {target : Definition}
variable {d id : DefId} {newName : String} {disk : FileTree} {s t : Snapshot}

theorem lastWith?_map {α β : Type} (f : α → β) (property : β → Bool) (items : List α) :
    lastWith? property (items.map f) = (lastWith? (property ∘ f) items).map f := by
  rw [lastWith?, lastWith?, ← List.map_reverse, List.find?_map]

namespace Project

theorem unitForPath?_congr
    (h : p.snapshot.units.map (·.path) = q.snapshot.units.map (·.path)) :
    p.unitForPath? = q.unitForPath? := by
  have hpaths : ∀ r : Project, ∀ path, r.unitForPath? path =
      (lastWith? (fun u => u.1.same path) (r.snapshot.units.map (·.path)).zipIdx).map
        fun u => ⟨u.2⟩ := by
    intro r path
    rw [List.zipIdx_map, lastWith?_map, Option.map_map]
    rfl
  funext path
  rw [hpaths, hpaths, h]

theorem scopeOrEmpty_eq (p : Project) (u : UnitId) :
    p.scopeOrEmpty u = ((p.unit? u).map (·.scope.declared)).getD [] := by
  unfold scopeOrEmpty fileScope
  cases p.unit? u with
  | none => rfl
  | some unit =>
      simp only [Option.map_some, Option.getD_some]
      cases unit.scope <;> rfl

theorem SameSymbols.renameTarget_eq (h : p.SameSymbols q) : p.renameTarget = q.renameTarget := by
  funext d
  simp only [renameTarget, h.definition?_eq, h.defines_eq]

theorem SameSymbols.isOneOf_eq (h : p.SameSymbols q) : p.isOneOf = q.isOneOf := by
  funext targets d
  simp only [isOneOf, h.baseDeclaration_eq]

theorem SameUnit.isIdField_eq (hu : p.SameUnit q u) :
    p.isIdField u target = q.isIdField u target := by
  unfold isIdField
  rw [hu.rootDefinition]

theorem SameUnit.markupOccurrences_eq (hu : p.SameUnit q u) (h : p.SameSymbols q) :
    p.markupOccurrences u targets target = q.markupOccurrences u targets target := by
  simp only [markupOccurrences, tagOccurrences, attributeOccurrences, hu.markup, hu.isIdField_eq,
    h.isOneOf_eq, h.tagBinding?_eq, h.attributeBinding?_eq]

theorem SameUnit.editorRange?_eq (hu : p.SameUnit q u) : p.editorRange? u = q.editorRange? u := by
  funext s
  rw [editorRange?, editorRange?, hu.text]

end Project

namespace Context

open Project

theorem treeOccurrences_eq (h : p.SameSymbols q) (hr : ctx.resolver.SameOn p q) (depth : Nat)
    (root : NodeId) : (ctx.withProject p).treeOccurrences targets depth root =
      (ctx.withProject q).treeOccurrences targets depth root := by
  induction depth generalizing root with
  | zero =>
      unfold treeOccurrences
      rw [withProject_project, withProject_project, h.node?_eq]
  | succ depth ih =>
      have hown : (ctx.withProject p).nodeOccurrence targets =
          (ctx.withProject q).nodeOccurrence targets := by
        funext id node
        unfold nodeOccurrence
        rw [withProject_project, withProject_project, withProject_resolver, withProject_resolver,
          h.identifier_eq hr, h.isOneOf_eq]
      simp only [treeOccurrences, withProject_project, h.node?_eq, hown, funext ih]

theorem occurrences_eq (hu : p.SameUnit q u) (h : p.SameSymbols q) (hr : ctx.resolver.SameOn p q) :
    (ctx.withProject p).occurrences u = (ctx.withProject q).occurrences u := by
  funext targets target
  have hscript : (ctx.withProject p).scriptOccurrences u targets =
      (ctx.withProject q).scriptOccurrences u targets := by
    simp only [scriptOccurrences, treeOccurrences_eq h hr, withProject_project, hu.ast, h.nodes]
  simp only [occurrences, hscript, withProject_project, hu.markupOccurrences_eq h]

/-- What the scan of one unit depends on. -/
theorem scanUnit_eq (hu : p.SameUnit q u) (h : p.SameSymbols q) (hr : ctx.resolver.SameOn p q)
    (plan : RenamePlan) : (ctx.withProject p).scanUnit id target newName plan u =
      (ctx.withProject q).scanUnit id target newName plan u := by
  have hedits : (ctx.withProject p).unitEdits u = (ctx.withProject q).unitEdits u := by
    funext spans newName
    simp only [unitEdits, withProject_project, hu.editorRange?_eq]
  have hpath : (p.unitPath? u).filter (fun _ => p.isSource u) =
      (q.unitPath? u).filter fun _ => q.isSource u := by
    rw [hu.path, isSource, isSource, hu.kind]
  unfold scanUnit
  rw [occurrences_eq hu h hr, hedits, withProject_project, withProject_project, hpath,
    h.isPrincipal_eq]
  rfl

/-- Renaming gives the same result on projects that agree on all symbols, on the units of paths, and
on all that is read in the scanned units. -/
theorem renameDefinition_eq (h : p.SameSymbols q) (hr : ctx.resolver.SameOn p q)
    (hid : p.renameTarget (p.baseDeclaration d) = id)
    (hfiles : p.unitForPath? = q.unitForPath?) (hkinds : p.unitKind? = q.unitKind?)
    (hunits : ∀ target, p.definition? id = some target →
      ∀ u ∈ p.scannedUnits target, p.SameUnit q u) :
    (ctx.withProject p).renameDefinition d newName =
      (ctx.withProject q).renameDefinition d newName := by
  have hid' : q.renameTarget (q.baseDeclaration d) = id := by
    rw [← h.renameTarget_eq, ← h.baseDeclaration_eq, hid]
  have hrefusal : ∀ target, (ctx.withProject p).refusal? target =
      (ctx.withProject q).refusal? target := by
    intro target
    unfold refusal?
    rw [withProject_project, withProject_project, hfiles, hkinds]
    rfl
  have hscanned : ∀ target, p.scannedUnits target = q.scannedUnits target := by
    intro target
    rw [scannedUnits, scannedUnits, hfiles, h.units]
  unfold renameDefinition
  simp only [withProject_project, hid, hid', h.definition?_eq]
  cases htarget : q.definition? id with
  | none => rfl
  | some target =>
      have hrun : (q.scannedUnits target).foldlM
            ((ctx.withProject p).scanUnit id target newName) {} =
          (q.scannedUnits target).foldlM ((ctx.withProject q).scanUnit id target newName) {} := by
        refine Answer.foldlM_congr (fun plan u hu => ?_) _
        rw [← hscanned] at hu
        exact scanUnit_eq (hunits target (h.definition?_eq ▸ htarget) u hu) h hr plan
      simp only [hrefusal, hscanned, hrun]

/-- The plan for a hidden definition stays in the unit of its file. -/
theorem confined_of_renameDefinition {plan : RenamePlan}
    (h : ctx.renameDefinition d newName = .ok (.edit plan))
    (hid : ctx.project.renameTarget (ctx.project.baseDeclaration d) = id)
    (htarget : ctx.project.definition? id = some target)
    (hhidden : target.isLocal ∨ target.isPrivate) :
    plan.documents.length ≤ 1 ∧
      (∀ doc ∈ plan.documents, (ctx.project.unitForPath? target.containingFile).bind
        ctx.project.unitPath? = some doc.path) ∧
      ∀ move, plan.fileRename = some move → (ctx.project.unitForPath? target.containingFile).bind
        ctx.project.unitPath? = some move.source := by
  obtain ⟨found, hfound, -, hrun⟩ := renameDefinition_eq_edit.mp h
  rw [hid] at hfound hrun
  obtain rfl : found = target := Option.some.inj (hfound.symm.trans htarget)
  rw [scannedUnits, if_pos (by simpa using hhidden)] at hrun
  cases hfile : ctx.project.unitForPath? found.containingFile with
  | none =>
      rw [hfile] at hrun
      cases hrun
      simp
  | some u =>
      rw [hfile] at hrun
      obtain ⟨next, hscan, hrest⟩ := Answer.bind_eq_ok.mp hrun
      cases hrest
      obtain ⟨-, ⟨-, rfl⟩ | ⟨path, spans, -, hpath, -, rfl⟩⟩ := scanUnit_eq_ok.mp hscan
      · simp
      · rw [Option.bind_some, hpath]
        refine ⟨?_, ?_, ?_⟩
        · split <;> simp
        · intro doc hdoc
          split at hdoc <;> simp_all
        · intro move hmove
          dsimp only at hmove
          split at hmove
          · cases hmove
            rfl
          · cases hmove

end Context

namespace Snapshot.SameOutline

theorem sameSymbols (h : s.SameOutline t) (disk : FileTree) :
    (Project.ofSnapshot disk s).SameSymbols (Project.ofSnapshot disk t) where
  nodes := h.nodes
  definitions := h.definitions
  bindings := h.bindings
  tagBindings := h.tagBindings
  overrides := h.overrides
  units := by
    have hlength : s.units.length = t.units.length := by simpa using congrArg List.length h.paths
    rw [Project.units, Project.units]
    exact congrArg (fun n => (List.range n).map UnitId.mk) hlength
  scopes := by
    funext u
    have hscope : (s.units[u.index]?).map (·.scope) = (t.units[u.index]?).map (·.scope) := by
      rw [← List.getElem?_map, ← List.getElem?_map, h.scopes]
    have hdeclared := congrArg (Option.map FileScope.declared) hscope
    rw [Option.map_map, Option.map_map] at hdeclared
    rw [Project.scopeOrEmpty_eq, Project.scopeOrEmpty_eq]
    exact congrArg (·.getD []) hdeclared

theorem unitKind?_eq (h : s.SameOutline t) (disk : FileTree) :
    (Project.ofSnapshot disk s).unitKind? = (Project.ofSnapshot disk t).unitKind? := by
  funext u
  have hkind := congrArg (·[u.index]?) h.kinds
  simp only [List.getElem?_map] at hkind
  exact hkind

end Snapshot.SameOutline

/-- A unit that is the same in both snapshots is read in the same way. -/
theorem Project.sameUnit_of_unit (hunit : s.units[u.index]? = t.units[u.index]?) (disk : FileTree) :
    (Project.ofSnapshot disk s).SameUnit (Project.ofSnapshot disk t) u := by
  have hsame : (Project.ofSnapshot disk s).unit? u = (Project.ofSnapshot disk t).unit? u := hunit
  have htext : (s.units.map (unitText? disk))[u.index]? =
      (t.units.map (unitText? disk))[u.index]? := by
    rw [List.getElem?_map, List.getElem?_map, hunit]
  constructor
  · rw [unitPath?, unitPath?, hsame]
  · rw [unitKind?, unitKind?, hsame]
  · rw [ast?, ast?, hsame]
  · rw [markup?, markup?, hsame]
  · rw [rootDefinition?, rootDefinition?, rootDefinition, rootDefinition, fileScope, fileScope,
      hsame]
  · exact congrArg Option.join htext

namespace Context

open Project

/-- Renaming a private or local definition is confined to its own file and blind to all others. The
plan has at most one batch, in the unit of the file, and moves no other file. On another snapshot in
which that unit is the same, and the other units keep their paths, kinds and file scopes, the result
is the same. -/
theorem rename_of_hidden_is_confined (ctx : Context) (disk : FileTree)
    (hid : (Project.ofSnapshot disk s).renameTarget
      ((Project.ofSnapshot disk s).baseDeclaration d) = id)
    (htarget : (Project.ofSnapshot disk s).definition? id = some target)
    (hhidden : target.isLocal ∨ target.isPrivate) (newName : String) :
    (∀ plan, (ctx.withProject (.ofSnapshot disk s)).renameDefinition d newName =
        .ok (.edit plan) →
      plan.documents.length ≤ 1 ∧
        (∀ doc ∈ plan.documents, ((Project.ofSnapshot disk s).unitForPath?
          target.containingFile).bind (Project.ofSnapshot disk s).unitPath? = some doc.path) ∧
        ∀ move, plan.fileRename = some move → ((Project.ofSnapshot disk s).unitForPath?
          target.containingFile).bind (Project.ofSnapshot disk s).unitPath? = some move.source) ∧
      ∀ t : Snapshot, s.SameOutline t →
        (∀ u, (Project.ofSnapshot disk s).unitForPath? target.containingFile = some u →
          s.units[u.index]? = t.units[u.index]?) →
        ctx.resolver.SameOn (.ofSnapshot disk s) (.ofSnapshot disk t) →
        (ctx.withProject (.ofSnapshot disk s)).renameDefinition d newName =
          (ctx.withProject (.ofSnapshot disk t)).renameDefinition d newName := by
  constructor
  · intro plan hplan
    exact confined_of_renameDefinition hplan hid htarget hhidden
  · intro t houtline hunit hresolver
    refine renameDefinition_eq (houtline.sameSymbols disk) hresolver hid
      (unitForPath?_congr houtline.paths) (houtline.unitKind?_eq disk) ?_
    intro found hfound u hu
    obtain rfl : found = target := Option.some.inj (hfound.symm.trans htarget)
    rw [scannedUnits, if_pos (by simpa using hhidden), Option.mem_toList] at hu
    exact sameUnit_of_unit (hunit u hu) disk

end Context

namespace HiddenSample

/-! A private variable, named in its own file and in another one. Its file is written with a dot
that does not count. -/

def size : Definition :=
  ⟨"size", "size", .var .fileMember, .priv, ⟨"/p/./Dot.as"⟩, none, none⟩

def own : UnitSnapshot :=
  ⟨⟨"/p/Dot.as"⟩, .script, some "var size", some ⟨0⟩, .ready [], none, [], none⟩

def other : UnitSnapshot :=
  ⟨⟨"/p/Main.as"⟩, .script, some "size", some ⟨1⟩, .ready [], none, [], none⟩

def snapshot : Snapshot where
  units := [own, other]
  nodes := [⟨.identifier "size", ⟨4, 8⟩, none, []⟩, ⟨.identifier "size", ⟨0, 4⟩, none, []⟩]
  definitions := [size]
  bindings := [⟨⟨0⟩, ⟨0⟩⟩, ⟨⟨1⟩, ⟨0⟩⟩]

/-- The other file without its tree, and with another text. -/
def changed : Snapshot :=
  { snapshot with units := [own, { other with text := some "", ast := none }] }

def context : Context where
  project := .ofSnapshot {} snapshot

def widthPlan : RenamePlan where
  documents := [⟨⟨"/p/Dot.as"⟩, [⟨⟨⟨0, 4⟩, ⟨0, 8⟩⟩, "width"⟩]⟩]

theorem sameOutline : snapshot.SameOutline changed := by
  constructor <;> rfl

theorem renameDefinition_size : context.renameDefinition ⟨0⟩ "width" = .ok (.edit widthPlan) := by
  have hscan : context.scanUnit ⟨0⟩ size "width" {} ⟨0⟩ = .ok widthPlan := by
    refine Context.scanUnit_eq_ok.mpr ⟨rfl, Or.inr ⟨⟨"/p/Dot.as"⟩, [⟨4, 8⟩], rfl, rfl, rfl, ?_⟩⟩
    rw [Context.unitEdits, Rename.disjoint_eq_self (by decide) (by decide)]
    rfl
  refine Context.renameDefinition_eq_edit.mpr ⟨size, rfl, rfl, ?_⟩
  exact Answer.bind_eq_ok.mpr ⟨_, hscan, rfl⟩

end HiddenSample

/-- The variable is renamed in its own file only, and in the same way after the other file has
changed. -/
theorem Context.rename_of_hidden_is_confined_of_sample :
    HiddenSample.size.isPrivate ∧ HiddenSample.snapshot.SameOutline HiddenSample.changed ∧
      HiddenSample.context.renameDefinition ⟨0⟩ "width" = .ok (.edit HiddenSample.widthPlan) ∧
      HiddenSample.widthPlan.documents.length ≤ 1 ∧
      (HiddenSample.context.withProject (.ofSnapshot {} HiddenSample.changed)).renameDefinition ⟨0⟩
        "width" = .ok (.edit HiddenSample.widthPlan) := by
  obtain ⟨hconfined, hblind⟩ := Context.rename_of_hidden_is_confined (d := ⟨0⟩)
    (s := HiddenSample.snapshot) HiddenSample.context {} rfl rfl (Or.inr rfl) "width"
  obtain ⟨hlength, -, -⟩ := hconfined _ HiddenSample.renameDefinition_size
  refine ⟨rfl, HiddenSample.sameOutline, HiddenSample.renameDefinition_size, hlength, ?_⟩
  rw [← hblind HiddenSample.changed HiddenSample.sameOutline ?_
    (Resolver.sameOn_standard _ _)]
  · exact HiddenSample.renameDefinition_size
  · intro u hu
    cases hu
    rfl

end SymbolNav
