import SymbolNav.Draft.DocTags
import SymbolNav.Draft.Nodes
import SymbolNav.Markup.Tree

/-!
# Growing units

A unit with a text starts with a root node that spans all of it. The tags of a markup unit are
scanned from its text, and the body of each style tag that has an end becomes a node.
-/

namespace SymbolNav.Draft

/-- Add a unit; one with a text gets a root node. -/
def addUnit (path : Path) (kind : UnitKind) (text : Option String) : Build UnitId := do
  let d ← get
  let id : UnitId := ⟨d.units.length⟩
  let root := text.map fun text =>
    (id, (⟨.other, whole text.toList, none, []⟩ : SyntaxNode))
  let unit : UnitSnapshot :=
    { path, kind, text
      ast := root.map fun _ => ⟨d.nodes.length⟩
      scope := .ready []
      rootDefinition := none
      docComments := []
      markup := none }
  set { d with units := d.units ++ [unit], nodes := d.nodes ++ root.toList }
  return id

def script (path : Path) (text : String) : Build UnitId :=
  addUnit path .script (some text)

/-- The bodies of style tags that have an end tag. -/
def styleBodies (m : MarkupDocument) : List Span :=
  m.tags.filterMap fun tag =>
    if tag.role = .style then
      tag.closeNameSpan.map fun close => ⟨tag.openSpan.stop, close.start - 2⟩
    else none

def markup (path : Path) (text : String) : Build UnitId := do
  let id ← addUnit path .markup (some text)
  let document := Markup.document path text
  modifyUnit id fun u => { u with markup := some document }
  (styleBodies document).forM fun body => discard (addNode id .styleBlock body)
  return id

/-- Make the file scope of a unit unknown. -/
def failScope (u : UnitId) (reason : String) : Build Unit :=
  modifyUnit u fun unit => { unit with scope := .failed reason }

/-- Add a definition to the file scope of a unit, if it is known. -/
def addToScope (u : UnitId) (definition : DefId) : Build Unit :=
  modifyUnit u fun unit =>
    match unit.scope with
    | .ready definitions => { unit with scope := .ready (definitions ++ [definition]) }
    | .failed _ => unit

/-- Splice a file into the unit of another one. -/
def splice (path parent : Path) (cues : List OffsetCue) : Build Unit :=
  modify fun d => { d with includes := d.includes ++ [⟨path, .ofCues parent cues⟩] }

/-- The `nth` tag with the name. -/
def tag (u : UnitId) (name : String) (nth : Nat) : Build TagId := do
  let tags := ((← unitAt u).markup.map (·.tags)).getD []
  let matching := tags.zipIdx.filter fun t => t.1.name.localPart = name
  demand (.tagNotFound name nth) (matching[nth]?.map fun t => ⟨t.2⟩)

def bindTag (u : UnitId) (tag : TagId) (attr : Option Nat) (definition : DefId) : Build Unit :=
  modify fun d => { d with tagBindings := d.tagBindings ++ [⟨u, tag, attr, definition⟩] }

/-- Add the `nth` documentation comment of a unit. -/
def docComment (u : UnitId) (nth : Nat) : Build Unit := do
  let text ← textOf u
  let start ← demand (.docCommentNotFound nth) (Text.occurrences ['/', '*', '*'] text)[nth]?
  let comment := docCommentAt text start
  modifyUnit u fun unit => { unit with docComments := unit.docComments ++ [comment] }

end SymbolNav.Draft
