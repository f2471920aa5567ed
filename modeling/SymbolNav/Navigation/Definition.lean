import SymbolNav.Navigation.DocReference
import SymbolNav.Navigation.MarkupTarget

/-!
# Going to a definition

Symbols are answered with the places that declare them. References in documentation comments are
answered with links, which also say where the reference itself stands. No answer is an empty list.
-/

namespace SymbolNav

/-- A place together with the range that refers to it. -/
structure LocationLink where
  origin : PositionRange
  target : Location
deriving DecidableEq, Repr

inductive DefinitionAnswer where
  | locations (all : List Location)
  | links (all : List LocationLink)
deriving DecidableEq, Repr

namespace DefinitionAnswer

def nothing : DefinitionAnswer := .locations []

/-- The places that are answered, without where they are referred to. -/
def targets : DefinitionAnswer → List Location
  | .locations all => all
  | .links all => all.map (·.target)

end DefinitionAnswer

/-- Where a definition is declared; nowhere if there is none. -/
def Project.locationsOf (p : Project) (d : Option DefId) : List Location :=
  match d with
  | some d => p.locations d
  | none => []

namespace Context

/-- The places that declare what a node refers to. -/
def nodeDefinition (ctx : Context) (node : NodeId) : Answer DefinitionAnswer := do
  let target ← ctx.resolver.forNavigation ctx.project node
  ctx.checkpoint
  .ok (.locations (ctx.project.locationsOf target))

/-- The definition of what stands in a comment or script at the offset. The position is that of the
request, in its own document. -/
def scriptDefinition (ctx : Context) (located : Located) (position : Position) :
    Answer DefinitionAnswer := do
  match ← ctx.project.offsetTarget located.unit located.offset with
  | .docComment _ comment =>
    match ctx.project.docReference? located.unit comment position with
    | none => .ok .nothing
    | some (target, origin) =>
      ctx.checkpoint
      .ok (.links ((ctx.project.locationsOf (some target)).map (⟨origin, ·⟩)))
  | .node node => ctx.nodeDefinition node
  | .nothing => .ok .nothing

/-- The places that declare what stands at a position of a document. -/
def definition (ctx : Context) (document : SourceDocument) (position : Position) :
    Answer DefinitionAnswer := do
  ctx.checkpoint
  match ctx.project.locate? document position with
  | none => .ok .nothing
  | some located =>
    ctx.checkpoint
    match document.dialect with
    | .script => ctx.scriptDefinition located position
    | .markup =>
      match ← ctx.project.markupTarget located.unit located.offset with
      | .script node => ctx.nodeDefinition node
      | .definition d =>
        ctx.checkpoint
        .ok (.locations (ctx.project.locationsOf (some d)))
      | .externalSource path => .ok (.locations (Project.sourceLocation? path).toList)
      | .attributeValue _ _ => .ok .nothing
      | .nothing => .ok .nothing
      | .fallthrough => ctx.scriptDefinition located position

end Context

end SymbolNav
