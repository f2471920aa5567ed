import SymbolNav.Rename.Disjoint
import SymbolNav.Rename.Occurrences

/-!
# Plans for renaming

A plan lists the edits of each document and the file that changes its name with its main definition.
Constructors are renamed through their class, and overrides through the function that introduced
them. Local and private definitions are seen in their own unit only, so no other unit is searched
for them.
-/

namespace SymbolNav

/-- Put a text in place of a range. -/
structure TextEdit where
  range : PositionRange
  newText : String
deriving DecidableEq, Repr

/-- The edits of one document, in order and without overlap. -/
structure DocumentEdit where
  path : Path
  edits : List TextEdit
deriving DecidableEq, Repr

/-- A file and the path it moves to. -/
structure FileRename where
  source : Path
  target : Path
deriving DecidableEq, Repr

structure RenamePlan where
  documents : List DocumentEdit := []
  fileRename : Option FileRename := none
deriving DecidableEq, Repr

/-- Why a definition cannot be renamed. -/
inductive Refusal where
  /-- A package extends over many files. -/
  | package
  /-- The definition stands in a precompiled library. -/
  | compiledLibrary
  /-- The file belongs to no project. -/
  | fallbackProject
deriving DecidableEq, Repr

inductive RenameOutcome where
  | edit (plan : RenamePlan)
  | refused (reason : Refusal)
  /-- There is nothing to rename. -/
  | noTarget
  /-- What is there refers to no definition. -/
  | unresolved
deriving DecidableEq, Repr

namespace Project

/-- The class in place of its constructor. -/
def renameTarget (p : Project) (d : DefId) : DefId :=
  let parent := ((p.definition? d).filter (·.isFunction)).bind (·.parent)
  (parent.filter fun parent => p.defines parent (·.constructor? = some d)).getD d

/-- The units in which a definition can be seen. -/
def scannedUnits (p : Project) (target : Definition) : List UnitId :=
  if target.isLocal || target.isPrivate then (p.unitForPath? target.containingFile).toList
  else p.units

end Project

/-- The new name in place of the file name, with the same extension. -/
def Path.renamed (path : Path) (newName : String) : Path :=
  path.withFileName (match path.extension? with
    | some extension => newName ++ "." ++ String.ofList extension
    | none => newName)

namespace Context

/-- Why a definition cannot be renamed, if so. -/
def refusal? (ctx : Context) (target : Definition) : Option Refusal :=
  let isCompiled :=
    ((ctx.project.unitForPath? target.containingFile).bind ctx.project.unitKind?).any (!·.isSource)
  if target.isPackage then some .package
  else if isCompiled || ctx.options.isLibrary target.containingFile then some .compiledLibrary
  else none

/-- The edits of a unit. Spans that do not fit its text are left out. -/
def unitEdits (ctx : Context) (u : UnitId) (spans : List Span) (newName : String) : List TextEdit :=
  (Rename.disjoint spans).filterMap fun span =>
    (ctx.project.editorRange? u span).map (⟨·, newName⟩)

/-- Add the edits of one unit to a plan. -/
def scanUnit (ctx : Context) (id : DefId) (target : Definition) (newName : String)
    (plan : RenamePlan) (u : UnitId) : Answer RenamePlan := do
  ctx.checkpoint
  match (ctx.project.unitPath? u).filter fun _ => ctx.project.isSource u with
  | none => .ok plan
  | some path =>
    let targets := id :: target.constructor?.toList
    let spans ← ctx.occurrences u targets target
    let edits := ctx.unitEdits u spans newName
    let documents := if edits.isEmpty then plan.documents else plan.documents ++ [⟨path, edits⟩]
    let fileRename :=
      if ctx.options.fileRename && plan.fileRename.isNone && ctx.project.isPrincipal u id then
        some ⟨path, path.renamed newName⟩
      else plan.fileRename
    ctx.checkpoint
    .ok ⟨documents, fileRename⟩

/-- The plan that renames a definition wherever it occurs. -/
def renameDefinition (ctx : Context) (d : DefId) (newName : String) : Answer RenameOutcome :=
  let id := ctx.project.renameTarget (ctx.project.baseDeclaration d)
  match ctx.project.definition? id with
  | none => .ok .unresolved
  | some target =>
    match ctx.refusal? target with
    | some reason => .ok (.refused reason)
    | none => do
      let plan ← (ctx.project.scannedUnits target).foldlM (ctx.scanUnit id target newName) {}
      .ok (.edit plan)

end Context

end SymbolNav
