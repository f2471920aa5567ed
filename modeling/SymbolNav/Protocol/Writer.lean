import SymbolNav.Json.Basic
import SymbolNav.Navigation.Definition
import SymbolNav.Rename.Request

/-!
# Answers as protocol messages

Places, links and edits in the form in which an editor takes them. A file goes by its address, so
edits of files without one are left out.
-/

namespace SymbolNav

open Json (ofNat)

def Position.toJson (p : Position) : Json :=
  .record [("line", ofNat p.line), ("character", ofNat p.character)]

def PositionRange.toJson (r : PositionRange) : Json :=
  .record [("start", r.start.toJson), ("end", r.stop.toJson)]

def Location.toJson (l : Location) : Json :=
  .record [("uri", .text l.uri), ("range", l.range.toJson)]

def LocationLink.toJson (l : LocationLink) : Json :=
  .record [("originSelectionRange", l.origin.toJson), ("targetUri", .text l.target.uri),
    ("targetRange", l.target.range.toJson), ("targetSelectionRange", l.target.range.toJson)]

def DefinitionAnswer.toJson : DefinitionAnswer → Json
  | .locations all => .list Location.toJson all
  | .links all => .list LocationLink.toJson all

def TextEdit.toJson (e : TextEdit) : Json :=
  .record [("range", e.range.toJson), ("newText", .text e.newText)]

/-- The greatest version number: edits apply to whatever version the editor has. -/
def latestVersion : Nat := Nat.pow 2 31 - 1

def DocumentEdit.toJson? (d : DocumentEdit) : Option Json :=
  d.path.toUrl?.map fun uri =>
    .record [
      ("textDocument", .record [("uri", .text uri), ("version", ofNat latestVersion)]),
      ("edits", .list TextEdit.toJson d.edits)]

def FileRename.toJson? (r : FileRename) : Option Json := do
  let source ← r.source.toUrl?
  let target ← r.target.toUrl?
  some (.record [("kind", .text "rename"), ("oldUri", .text source), ("newUri", .text target)])

/-- All edits of a plan as one list of changes, the rename of a file at the end. -/
def RenamePlan.toJson (plan : RenamePlan) : Json :=
  .record [("documentChanges",
    .array (plan.documents.filterMap DocumentEdit.toJson? ++
      (plan.fileRename.bind FileRename.toJson?).toList))]

/-- The edit that changes nothing. -/
def emptyEdit : Json := .record []

/-- Where there is nothing to rename nothing changes; a rename that cannot be done has no edit. -/
def RenameOutcome.toJson : RenameOutcome → Json
  | .edit plan => plan.toJson
  | .noTarget => emptyEdit
  | .refused .fallbackProject => emptyEdit
  | .refused _ => .null
  | .unresolved => .null

end SymbolNav
