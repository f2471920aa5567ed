import SymbolNav.Proofs.Navigation.Tree
import SymbolNav.Proofs.Rename.Plan
import SymbolNav.Rename.Request

/-!
# Renaming from any occurrence

A definition can be renamed from each place where a script names it. The place leads to the node,
the node to a definition that stands for the target, and overrides and constructors lead from there
to the target itself, so the plan is the same wherever the request is made. On its way the request
follows the parents of the node, and it is not answered if they lead round in a circle.
-/

namespace SymbolNav

/-- What stands at an offset of a document in the given dialect. -/
def Context.renameTargetAt (ctx : Context) (dialect : Dialect) (u : UnitId) (offset : Nat) :
    Answer RenameTarget :=
  match dialect with
  | .script => ctx.scriptRenameTarget u offset
  | .markup => ctx.markupRenameTarget u offset

variable {ctx : Context} {p : Project} {d e id : DefId} {target : Definition}

namespace Project

/-- Constructors are functions that belong to their classes. -/
def ConstructorsBelong (p : Project) : Prop :=
  ∀ {owner constructor : DefId} {definition : Definition}, p.definition? owner = some definition →
    definition.constructor? = some constructor →
    ∃ function, p.definition? constructor = some function ∧ function.isFunction ∧
      function.parent = some owner

/-- Either a definition is renamed itself, or the class whose constructor it is. -/
theorem renameTarget_eq_or (p : Project) (d : DefId) :
    p.renameTarget d = d ∨
      ∃ owner, p.definition? (p.renameTarget d) = some owner ∧ owner.constructor? = some d := by
  simp only [renameTarget]
  cases hparent : (((p.definition? d).filter (·.isFunction)).bind (·.parent)).filter
      fun parent => p.defines parent (·.constructor? = some d) with
  | none => exact Or.inl rfl
  | some parent =>
      obtain ⟨-, hdefines⟩ := Option.filter_eq_some_iff.mp hparent
      obtain ⟨owner, howner, hconstructor⟩ := (Option.any_eq_true _ _).mp hdefines
      exact Or.inr ⟨owner, howner, by simpa using hconstructor⟩

theorem renameTarget_of_constructor? {definition : Definition}
    (hdefinition : p.definition? d = some definition)
    (hconstructor : definition.constructor? = some e) : p.renameTarget d = d := by
  have hkind : definition.isFunction = false := by
    unfold Definition.constructor? at hconstructor
    unfold Definition.isFunction
    split at hconstructor
    · rename_i hkind
      rw [hkind]
    · cases hconstructor
  simp [renameTarget, hdefinition, hkind, Option.filter_some]

theorem renameTarget_renameTarget (p : Project) (d : DefId) :
    p.renameTarget (p.renameTarget d) = p.renameTarget d := by
  rcases p.renameTarget_eq_or d with hself | ⟨owner, howner, hconstructor⟩
  · rw [hself, hself]
  · exact renameTarget_of_constructor? howner hconstructor

/-- A constructor is renamed through its class. -/
theorem renameTarget_constructor (hconstructors : p.ConstructorsBelong)
    (htarget : p.definition? id = some target) (hconstructor : target.constructor? = some d) :
    p.renameTarget d = id := by
  obtain ⟨function, hfunction, hkind, hparent⟩ := hconstructors htarget hconstructor
  simp [renameTarget, hfunction, hkind, hparent, defines, htarget, hconstructor, Option.filter_some]

/-- All that stands for a target is renamed as the target. -/
theorem renameTarget_of_standsFor (hconstructors : p.ConstructorsBelong)
    (hid : p.renameTarget d = id) (htarget : p.definition? id = some target)
    (h : p.StandsFor id target e) : p.renameTarget (p.baseDeclaration e) = id := by
  rcases h with hbase | hconstructor
  · rw [hbase, ← hid]
    exact p.renameTarget_renameTarget d
  · exact renameTarget_constructor hconstructors htarget hconstructor

end Project

namespace Resolver

theorem forRename_of_isIdentifier {r : Resolver} {i : NodeId} {node : SyntaxNode}
    (hnode : p.node? i = some node) (hident : node.isIdentifier) :
    r.forRename p i = r.identifier p i := by
  have hname : node.declaredName? = none := by
    unfold SyntaxNode.isIdentifier SyntaxNode.identifier? at hident
    unfold SyntaxNode.declaredName?
    split at hident
    · rename_i hkind
      rw [hkind]
    · cases hident
  simp [forRename, hnode, hname, hident]

end Resolver

namespace Context

variable {document : SourceDocument} {position : Position} {newName : String}

theorem renameDefinition_congr (h : ctx.project.renameTarget (ctx.project.baseDeclaration d) =
      ctx.project.renameTarget (ctx.project.baseDeclaration e)) :
    ctx.renameDefinition d newName = ctx.renameDefinition e newName := by
  unfold renameDefinition
  rw [h]

theorem ofOption_eq_definition {found : Option DefId} :
    RenameTarget.ofOption found = .definition d ↔ found = some d := by
  cases found with
  | none => simp [RenameTarget.ofOption]
  | some e => simp [RenameTarget.ofOption]

/-- In script a definition comes from a node outside of style sheets. -/
theorem scriptRenameTarget_eq_definition {u : UnitId} {offset : Nat} :
    ctx.scriptRenameTarget u offset = .ok (.definition d) ↔
      ∃ i, ctx.project.offsetTarget u offset = .ok (.node i) ∧
        ctx.project.isInStyleBlock i = .ok false ∧
        ctx.resolver.forRename ctx.project i = .ok (some d) := by
  unfold scriptRenameTarget
  rw [Answer.bind_eq_ok]
  constructor
  · rintro ⟨place, hplace, h⟩
    cases place with
    | node i =>
        obtain ⟨inStyle, hstyle, h⟩ := Answer.bind_eq_ok.mp h
        cases inStyle with
        | true => cases h
        | false =>
            obtain ⟨found, hfound, h⟩ := Answer.bind_eq_ok.mp h
            have hdefinition := ofOption_eq_definition.mp (Except.ok.inj h)
            exact ⟨i, hplace, hstyle, hdefinition ▸ hfound⟩
    | docComment index comment => cases h
    | nothing => cases h
  · rintro ⟨i, hplace, hstyle, hfound⟩
    refine ⟨.node i, hplace, ?_⟩
    exact Answer.bind_eq_ok.mpr ⟨false, hstyle, Answer.bind_eq_ok.mpr ⟨some d, hfound, rfl⟩⟩

/-- A leaf of a tree is what stands at an offset inside it, unless a comment does. -/
theorem offsetTarget_eq_node {u : UnitId} {root i : NodeId} {node : SyntaxNode} {offset : Nat}
    (hast : p.ast? u = some root) (hlaminar : p.Laminar root) (hbelow : p.Below root i)
    (hnode : p.node? i = some node) (hleaf : node.children = [])
    (hoffset : node.span.contains offset)
    (hdoc : ∀ comment ∈ p.docComments u, ¬ comment.span.contains offset) :
    p.offsetTarget u offset = .ok (.node i) := by
  have hcomment : (p.docComments u).zipIdx.find? (fun c => c.1.span.contains offset) = none := by
    rw [List.find?_eq_none]
    rintro ⟨comment, index⟩ hmem
    exact hdoc comment (List.fst_mem_of_mem_zipIdx hmem)
  rw [Project.offsetTarget, hcomment]
  simp only [hast]
  rw [hlaminar.innermostNode_eq hbelow hnode hleaf hoffset]
  rfl

/-- Only a definition that was found leads to a plan. -/
theorem outcome_eq_edit {plan : RenamePlan} {x : Answer RenameTarget} :
    (do
      let found ← x
      Except.ok ()
      match found with
      | .definition d => ctx.renameDefinition d newName
      | .unresolved => .ok .unresolved
      | .nothing => .ok .noTarget : Answer RenameOutcome) = .ok (.edit plan) ↔
      ∃ d, x = .ok (.definition d) ∧ ctx.renameDefinition d newName = .ok (.edit plan) := by
  rw [Answer.bind_eq_ok]
  constructor
  · rintro ⟨found, hfound, h⟩
    obtain ⟨_, -, h⟩ := Answer.bind_eq_ok.mp h
    cases found with
    | definition d => exact ⟨d, hfound, h⟩
    | unresolved => cases h
    | nothing => cases h
  · rintro ⟨d, hfound, h⟩
    exact ⟨.definition d, hfound, h⟩

/-- What stands behind the answer of a request: a place, a definition at it, and its plan. -/
theorem rename_eq_edit {plan : RenamePlan} :
    ctx.rename document position newName = .ok (.edit plan) ↔
      ctx.cancelled = false ∧ ctx.project.isFallback = false ∧
      ∃ u offset d, ctx.project.locate? document position = some ⟨u, offset⟩ ∧
        ctx.renameTargetAt document.dialect u offset = .ok (.definition d) ∧
        ctx.renameDefinition d newName = .ok (.edit plan) := by
  unfold rename checkpoint
  cases ctx.cancelled with
  | true => simp [Answer.bind_eq_ok]
  | false =>
      cases ctx.project.isFallback with
      | true => simp [Answer.bind_eq_ok]
      | false =>
          cases ctx.project.locate? document position with
          | none => simp [Answer.bind_eq_ok]
          | some located =>
              obtain ⟨u, offset⟩ := located
              cases document.dialect with
              | script =>
                  refine outcome_eq_edit.trans ?_
                  simp [renameTargetAt]
              | markup =>
                  refine outcome_eq_edit.trans ?_
                  simp [renameTargetAt]

end Context

namespace Sample

theorem constructorsBelong : context.project.ConstructorsBelong := by
  rintro ⟨_ | _ | owner⟩ constructor definition hdefinition hconstructor
  · cases hdefinition
    cases hconstructor
    exact ⟨dotConstructor, rfl, rfl, rfl⟩
  · cases hdefinition
    cases hconstructor
  · cases hdefinition

theorem laminar : context.project.Laminar ⟨0⟩ where
  inside := by
    rintro ⟨_ | _ | _ | id⟩ child node childNode - hnode hchild hchildNode
    · cases hnode
      rcases List.mem_pair.mp hchild with rfl | rfl <;> cases hchildNode <;> decide
    all_goals cases hnode <;> cases hchild
  apart := by
    rintro ⟨_ | _ | _ | id⟩ first second node firstNode secondNode offset - hnode hfirst hsecond
      hfirstNode hsecondNode hin hin'
    · cases hnode
      rcases List.mem_pair.mp hfirst with rfl | rfl <;>
        rcases List.mem_pair.mp hsecond with rfl | rfl <;>
        cases hfirstNode <;> cases hsecondNode <;> simp at hin hin' ⊢ <;> omega
    all_goals cases hnode <;> cases hfirst

theorem outsideStyle : context.project.OutsideStyle ⟨2⟩ :=
  Project.outsideStyle_of_forall (by decide)

end Sample

namespace Context

/-- The plan of a definition can be had from any of its occurrences in script. A request at the start
of an identifier that a scan of its unit finds, made in any script document that stands for the unit
and has a boundary there, is answered with the plan that the scan belongs to. The parents of the
identifier must come to an end, and the text must have few enough lines and columns to count. -/
theorem rename_at_occurrence {plan : RenamePlan} {u : UnitId} {i : NodeId} {node : SyntaxNode}
    {path : Path} {text : String} (hfallback : ctx.project.isFallback = false)
    (hplan : ctx.renameDefinition d newName = .ok (.edit plan))
    (hid : ctx.project.renameTarget (ctx.project.baseDeclaration d) = id)
    (htarget : ctx.project.definition? id = some target)
    (hu : u ∈ ctx.project.scannedUnits target) (hi : ctx.Identifies id target u i node)
    (hlaminar : ∀ root, ctx.project.ast? u = some root → ctx.project.Laminar root)
    (hleaf : node.children = []) (hnonempty : node.span.start < node.span.stop)
    (hown : ctx.project.unitForPath? path = some u)
    (hinclude : ctx.project.includeSplice? path = none)
    (hboundary : Text.IsBoundary text.toList node.span.start)
    (hwhole : ¬ Text.SplitsLineEnd text.toList node.span.start)
    (hdoc : ∀ comment ∈ ctx.project.docComments u, ¬ comment.span.contains node.span.start)
    (hstyle : ctx.project.OutsideStyle i) (hconstructors : ctx.project.ConstructorsBelong)
    (hends : ctx.project.ParentsEnd i) (hfits : Text.FitsEditor text.toList) :
    ∃ position, Text.position? text.toList node.span.start = some position ∧
      ctx.rename ⟨path, .script, text⟩ position newName = .ok (.edit plan) := by
  obtain ⟨found, hfound, -, hrun⟩ := renameDefinition_eq_edit.mp hplan
  rw [hid] at hfound hrun
  obtain rfl : found = target := Option.some.inj (hfound.symm.trans htarget)
  obtain ⟨hrunning, -⟩ := searched_of_foldlM hrun hu
  obtain ⟨root, hast, hbelow, hnode, hident, e, hresolved, hstands⟩ := hi
  obtain ⟨front, back, hcut⟩ := Text.isBoundary_iff.mp hboundary
  have hlocate : ctx.project.locate? ⟨path, .script, text⟩ (Position.after ⟨0, 0⟩ front) =
      some ⟨u, node.span.start⟩ := by
    simp [Project.locate?, hcut.offset?_after hwhole, hinclude, hown]
  have hplace : ctx.project.offsetTarget u node.span.start = .ok (.node i) :=
    offsetTarget_eq_node hast (hlaminar root hast) hbelow hnode hleaf
      (Span.contains_iff.mpr ⟨Nat.le_refl _, hnonempty⟩) hdoc
  have hscript : ctx.scriptRenameTarget u node.span.start = .ok (.definition e) := by
    refine scriptRenameTarget_eq_definition.mpr ⟨i, hplace, hstyle.isInStyleBlock_eq hends, ?_⟩
    rw [Resolver.forRename_of_isIdentifier hnode hident]
    exact hresolved
  have htarget' := Project.renameTarget_of_standsFor hconstructors hid htarget hstands
  refine ⟨Position.after ⟨0, 0⟩ front, hcut.position?_of_fits hfits, rename_eq_edit.mpr
    ⟨hrunning, hfallback, u, node.span.start, e, hlocate, hscript, ?_⟩⟩
  rw [← hplan]
  exact renameDefinition_congr (htarget'.trans hid.symm)

/-- The sample class can be renamed from the name of its constructor. -/
theorem rename_at_occurrence_of_sample :
    Sample.context.renameDefinition ⟨1⟩ "Spot" = .ok (.edit Sample.spotPlan) ∧
      Sample.context.Identifies ⟨0⟩ Sample.dot ⟨0⟩ ⟨2⟩
        ⟨.identifier "Dot", ⟨21, 24⟩, some ⟨0⟩, []⟩ ∧
      Sample.context.project.ParentsEnd ⟨2⟩ ∧
      Text.FitsEditor "class Dot { function Dot() {} }".toList ∧
      ∃ position, Text.position? "class Dot { function Dot() {} }".toList 21 = some position ∧
        Sample.context.rename ⟨⟨"/p/Dot.as"⟩, .script, "class Dot { function Dot() {} }"⟩ position
          "Spot" = .ok (.edit Sample.spotPlan) := by
  have hi : Sample.context.Identifies ⟨0⟩ Sample.dot ⟨0⟩ ⟨2⟩
      ⟨.identifier "Dot", ⟨21, 24⟩, some ⟨0⟩, []⟩ :=
    ⟨⟨0⟩, rfl, .single ⟨_, rfl, by decide⟩, rfl, rfl, ⟨1⟩, rfl, Or.inr rfl⟩
  have hlaminar : ∀ root, Sample.context.project.ast? ⟨0⟩ = some root →
      Sample.context.project.Laminar root := by
    intro root hroot
    cases hroot
    exact Sample.laminar
  have hends : Sample.context.project.ParentsEnd ⟨2⟩ := ⟨1, ⟨0⟩, .move rfl (.stop rfl)⟩
  have hfits : Text.FitsEditor "class Dot { function Dot() {} }".toList :=
    Text.fitsEditor_of_utf16Length (by decide)
  exact ⟨Sample.renameDefinition_constructor, hi, hends, hfits,
    rename_at_occurrence rfl Sample.renameDefinition_constructor rfl rfl (by decide) hi hlaminar rfl
      (by decide) rfl rfl (by decide) (by decide) (by decide) Sample.outsideStyle
      Sample.constructorsBelong hends hfits⟩

end Context

namespace CircularSample

/-! The name of a class is its own parent. -/

def dot : Definition :=
  ⟨"Dot", "Dot", .classType none [], .pub, ⟨"/p/Dot.as"⟩, none, some ⟨6, 9⟩⟩

def name : SyntaxNode :=
  ⟨.identifier "Dot", ⟨6, 9⟩, some ⟨1⟩, []⟩

def snapshot : Snapshot where
  units := [⟨⟨"/p/Dot.as"⟩, .script, some "class Dot {}", some ⟨0⟩, .ready [⟨0⟩], none, [], none⟩]
  nodes := [⟨.other, ⟨0, 12⟩, none, [⟨1⟩]⟩, name]
  definitions := [dot]
  bindings := [⟨⟨1⟩, ⟨0⟩⟩]

def context : Context where
  project := .ofSnapshot {} snapshot

def edits : DocumentEdit :=
  ⟨⟨"/p/Dot.as"⟩, [⟨⟨⟨0, 6⟩, ⟨0, 9⟩⟩, "Spot"⟩]⟩

theorem unitEdits_eq : context.unitEdits ⟨0⟩ [⟨6, 9⟩] "Spot" = edits.edits := by
  rw [Context.unitEdits, Rename.disjoint_eq_self (by decide) (by decide)]
  rfl

/-- The scan goes down the tree and meets no parent. -/
theorem renameDefinition_dot :
    context.renameDefinition ⟨0⟩ "Spot" = .ok (.edit ⟨[edits], none⟩) := by
  have hscan : context.scanUnit ⟨0⟩ dot "Spot" {} ⟨0⟩ = .ok ⟨[edits], none⟩ := by
    refine Context.scanUnit_eq_ok.mpr ⟨rfl, Or.inr ⟨⟨"/p/Dot.as"⟩, [⟨6, 9⟩], rfl, rfl, rfl, ?_⟩⟩
    rw [unitEdits_eq]
    rfl
  refine Context.renameDefinition_eq_edit.mpr ⟨dot, rfl, rfl, ?_⟩
  exact Answer.bind_eq_ok.mpr ⟨_, hscan, rfl⟩

theorem constructorsBelong : context.project.ConstructorsBelong := by
  rintro ⟨_ | owner⟩ constructor definition hdefinition hconstructor
  · cases hdefinition
    cases hconstructor
  · cases hdefinition

theorem laminar : context.project.Laminar ⟨0⟩ where
  inside := by
    rintro ⟨_ | _ | id⟩ child node childNode - hnode hchild hchildNode
    · cases hnode
      cases List.mem_singleton.mp hchild
      cases hchildNode
      decide
    all_goals cases hnode <;> cases hchild
  apart := by
    rintro ⟨_ | _ | id⟩ first second node _ _ _ - hnode hfirst hsecond _ _ _ _
    · cases hnode
      rw [List.mem_singleton.mp hfirst, List.mem_singleton.mp hsecond]
    all_goals cases hnode <;> cases hfirst

end CircularSample

namespace Context

/-- The chain of parents of the name has no style block on it and no end either. The class has a
plan and the name is one of its occurrences, but a request made there is never answered. -/
theorem rename_endless_at_circular_parent :
    CircularSample.context.project.isFallback = false ∧
      CircularSample.context.renameDefinition ⟨0⟩ "Spot" =
        .ok (.edit ⟨[CircularSample.edits], none⟩) ∧
      ⟨0⟩ ∈ CircularSample.context.project.scannedUnits CircularSample.dot ∧
      CircularSample.context.Identifies ⟨0⟩ CircularSample.dot ⟨0⟩ ⟨1⟩ CircularSample.name ∧
      (∀ root, CircularSample.context.project.ast? ⟨0⟩ = some root →
        CircularSample.context.project.Laminar root) ∧
      CircularSample.context.project.unitForPath? ⟨"/p/Dot.as"⟩ = some ⟨0⟩ ∧
      CircularSample.context.project.includeSplice? ⟨"/p/Dot.as"⟩ = none ∧
      CircularSample.context.project.docComments ⟨0⟩ = [] ∧
      CircularSample.context.project.OutsideStyle ⟨1⟩ ∧
      CircularSample.context.project.ConstructorsBelong ∧
      Text.FitsEditor "class Dot {}".toList ∧
      Text.position? "class Dot {}".toList 6 = some ⟨0, 6⟩ ∧
      CircularSample.context.rename ⟨⟨"/p/Dot.as"⟩, .script, "class Dot {}"⟩ ⟨0, 6⟩ "Spot" =
        .error .endless := by
  have hi : CircularSample.context.Identifies ⟨0⟩ CircularSample.dot ⟨0⟩ ⟨1⟩ CircularSample.name :=
    ⟨⟨0⟩, rfl, .single ⟨_, rfl, by decide⟩, rfl, rfl, ⟨0⟩, rfl, Or.inl rfl⟩
  have hlaminar : ∀ root, CircularSample.context.project.ast? ⟨0⟩ = some root →
      CircularSample.context.project.Laminar root := by
    intro root hroot
    cases hroot
    exact CircularSample.laminar
  exact ⟨rfl, CircularSample.renameDefinition_dot, by decide, hi, hlaminar, rfl, rfl, rfl,
    Project.outsideStyle_of_forall (by decide), CircularSample.constructorsBelong,
    Text.fitsEditor_of_utf16Length (by decide), rfl, rfl⟩

end Context

end SymbolNav
