import SymbolNav.Navigation.MarkupTarget
import SymbolNav.Rename.Plan

/-!
# Renaming at a position

What stands at the position decides what is renamed: the node of a script, a bound name in markup,
or the field that an `id` attribute declares. Style sheets and documentation comments are not
renamed.
-/

namespace SymbolNav

/-- What a request to rename is about. -/
inductive RenameTarget where
  | definition (id : DefId)
  /-- Something is there but refers to no definition. -/
  | unresolved
  | nothing
deriving DecidableEq, Repr

/-- What something refers to, if anything. -/
def RenameTarget.ofOption : Option DefId → RenameTarget
  | some d => .definition d
  | none => .unresolved

/-- The field that an `id` attribute declares: the member of that name of the first class at package
level that other units see. -/
def Project.idField? (p : Project) (u : UnitId) (tag : TagId) (index : Nat) : Option DefId := do
  let m ← p.markup? u
  let tag ← m.tag? tag
  let attr ← tag.attributes[index]?.filter (·.name = idAttribute)
  let owner ← (p.topLevel u).find? fun d => p.defines d fun c => c.isClass && !c.isPrivate
  let definition ← p.definition? owner
  definition.members.find? fun d => p.defines d (·.name = attr.rawValue)

namespace Context

/-- What stands in script at an offset. -/
def scriptRenameTarget (ctx : Context) (u : UnitId) (offset : Nat) : Answer RenameTarget := do
  match ← ctx.project.offsetTarget u offset with
  | .node node =>
    if ← ctx.project.isInStyleBlock node then .ok .nothing
    else .ok (.ofOption (← ctx.resolver.forRename ctx.project node))
  | .docComment _ _ => .ok .unresolved
  | .nothing => .ok .nothing

/-- What stands in markup at an offset. -/
def markupRenameTarget (ctx : Context) (u : UnitId) (offset : Nat) : Answer RenameTarget := do
  match ← ctx.project.markupTarget u offset with
  | .script node => .ok (.ofOption (← ctx.resolver.forRename ctx.project node))
  | .definition d => .ok (.definition d)
  | .attributeValue tag index =>
    match ctx.project.idField? u tag index with
    | some d => .ok (.definition d)
    | none => .ok .nothing
  | .externalSource _ => .ok .nothing
  | .nothing => .ok .nothing
  | .fallthrough => ctx.scriptRenameTarget u offset

/-- Rename what stands at a position of a document. -/
def rename (ctx : Context) (document : SourceDocument) (position : Position) (newName : String) :
    Answer RenameOutcome := do
  ctx.checkpoint
  if ctx.project.isFallback then .ok (.refused .fallbackProject)
  else match ctx.project.locate? document position with
    | none => .ok .noTarget
    | some located =>
      ctx.checkpoint
      let target ← match document.dialect with
        | .script => ctx.scriptRenameTarget located.unit located.offset
        | .markup => ctx.markupRenameTarget located.unit located.offset
      ctx.checkpoint
      match target with
      | .definition d => ctx.renameDefinition d newName
      | .unresolved => .ok .unresolved
      | .nothing => .ok .noTarget

end Context

end SymbolNav
