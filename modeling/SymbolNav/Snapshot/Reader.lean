import SymbolNav.Json.Decode
import SymbolNav.Json.Reader
import SymbolNav.Snapshot.Basic

/-!
# Snapshots from JSON

Handles, lines and columns are below 2^32, offsets below 2^64, and adjustments fit into 64 bits with
a sign. Nodes, definitions and includes share one object with their kind or splice, and the state of
a file scope is told by a tag.
-/

namespace SymbolNav

/-- Bound on handles, lines and columns. -/
def indexLimit : Nat := Nat.pow 2 32

/-- How deep the values in a snapshot may be nested where they are kept. -/
def nestingLimit : Nat := 127

def Json.index? (j : Json) : Option Nat := j.nat? indexLimit

def Json.offset? (j : Json) : Option Nat := j.nat? offsetLimit

/-- A span. Other than in a record, no other members are allowed. -/
def Span.ofJson? (j : Json) : Option Span := do
  let r ← j.record? ["start", "end"]
  if r.members.all fun m => m.1 = "start" || m.1 = "end" then
    some ⟨← r.required? "start" Json.offset?, ← r.required? "end" Json.offset?⟩
  else none

def Path.ofJson? (j : Json) : Option Path := j.text?.map Path.mk

def UnitId.ofJson? (j : Json) : Option UnitId := j.index?.map UnitId.mk

def NodeId.ofJson? (j : Json) : Option NodeId := j.index?.map NodeId.mk

def DefId.ofJson? (j : Json) : Option DefId := j.index?.map DefId.mk

def TagId.ofJson? (j : Json) : Option TagId := j.index?.map TagId.mk

def Keyword.ofJson? : Json → Option Keyword :=
  Json.keptName? [("this", .this), ("super", .super), ("other", .other)]

namespace NodeKind

/-- The kinds of a node: the fields of each and how it reads them. -/
def readers : List (String × List String × (Record → Option NodeKind)) :=
  [("identifier", ["name"], fun r => do
      some (.identifier (← r.required? "name" Json.text?))),
    ("keyword", ["keyword"], fun r => do
      some (.keyword (← r.required? "keyword" Keyword.ofJson?))),
    ("class_decl", ["name", "base"], fun r => do
      some (.classDecl (← r.required? "name" NodeId.ofJson?)
        (← r.optional? "base" NodeId.ofJson?))),
    ("declaration", ["name"], fun r => do
      some (.declaration (← r.required? "name" NodeId.ofJson?))),
    ("call", ["is_new"], fun r => do
      some (.call (← r.required? "is_new" Json.bool?))),
    ("member_access", ["left", "right"], fun r => do
      some (.memberAccess (← r.required? "left" NodeId.ofJson?)
        (← r.required? "right" NodeId.ofJson?))),
    ("style_block", [], fun _ => some .styleBlock),
    ("other", [], fun _ => some .other)]

/-- The kind among the members of a node. -/
def ofRecord? (r : Record) : Option NodeKind := do
  let r ← r.select? ["kind"]
  let (fields, read) ← r.required? "kind" (Json.tag? true readers)
  read (← r.select? fields)

/-- A kind that stands for itself. Its array form starts with the tag, and has all fields. -/
def ofJson? (j : Json) : Option NodeKind :=
  match j with
  | .array (tag :: items) => do
    let (fields, read) ← tag.tag? false readers
    if items.length = fields.length then read (← (Json.array items).record? fields) else none
  | _ => do
    let (own, others) ← j.shared? nestingLimit ["kind"]
    let (fields, read) ← own.required? "kind" (Json.tag? false readers)
    read (← others.select? fields)

end NodeKind

/-- A node, which stands at the third level of a snapshot. -/
def SyntaxNode.ofJson? (j : Json) : Option SyntaxNode := do
  let (own, others) ← j.shared? (nestingLimit - 3) ["span", "parent", "children"]
  some {
    kind := ← NodeKind.ofRecord? others
    span := ← own.required? "span" Span.ofJson?
    parent := ← own.optional? "parent" NodeId.ofJson?
    children := ← own.field? "children" (Json.list? NodeId.ofJson?) [] }

def Visibility.ofJson? : Json → Option Visibility :=
  Json.name? [("public", .pub), ("internal", .internal), ("protected", .prot), ("private", .priv)]

def VariableClass.ofJson? : Json → Option VariableClass :=
  Json.keptName? [("local", .localScope), ("parameter", .parameter), ("class_member", .classMember),
    ("interface_member", .interfaceMember), ("package_member", .packageMember),
    ("file_member", .fileMember)]

def FunctionClass.ofJson? : Json → Option FunctionClass :=
  Json.keptName? [("local", .localScope), ("class_member", .classMember),
    ("interface_member", .interfaceMember), ("package_member", .packageMember),
    ("file_member", .fileMember)]

namespace DefinitionKind

/-- The kinds of a definition: how each reads its fields. -/
def readers : List (String × (Record → Option DefinitionKind)) :=
  [("package", fun r => do
      let r ← r.select? ["members"]
      some (.package (← r.field? "members" (Json.list? DefId.ofJson?) []))),
    ("class", fun r => do
      let r ← r.select? ["constructor", "members"]
      some (.classType (← r.optional? "constructor" DefId.ofJson?)
        (← r.field? "members" (Json.list? DefId.ofJson?) []))),
    ("interface", fun r => do
      let r ← r.select? ["members"]
      some (.interfaceType (← r.field? "members" (Json.list? DefId.ofJson?) []))),
    ("function", fun r => do
      let r ← r.select? ["classification", "is_override"]
      some (.function (← r.required? "classification" FunctionClass.ofJson?)
        (← r.field? "is_override" Json.bool? false))),
    ("variable", fun r => do
      let r ← r.select? ["classification"]
      some (.var (← r.required? "classification" VariableClass.ofJson?)))]

/-- The kind among the members of a definition. -/
def ofRecord? (r : Record) : Option DefinitionKind := do
  let r ← r.select? ["kind"]
  let read ← r.required? "kind" (Json.tag? true readers)
  read r

end DefinitionKind

/-- A definition, which stands at the third level of a snapshot. -/
def Definition.ofJson? (j : Json) : Option Definition := do
  let (own, others) ← j.shared? (nestingLimit - 3)
    ["name", "qualified_name", "visibility", "containing_file", "parent", "name_span"]
  some {
    name := ← own.required? "name" Json.text?
    qualifiedName := ← own.required? "qualified_name" Json.text?
    kind := ← DefinitionKind.ofRecord? others
    visibility := ← own.field? "visibility" Visibility.ofJson? .pub
    containingFile := ← own.required? "containing_file" Path.ofJson?
    parent := ← own.optional? "parent" DefId.ofJson?
    nameSpan := ← own.optional? "name_span" Span.ofJson? }

def DocTag.ofJson? (j : Json) : Option DocTag := do
  let r ← j.record? ["name", "description", "line", "column", "end_line", "end_column"]
  some {
    name := ← r.required? "name" Json.text?
    description := ← r.required? "description" Json.text?
    line := ← r.required? "line" Json.index?
    column := ← r.required? "column" Json.index?
    endLine := ← r.required? "end_line" Json.index?
    endColumn := ← r.required? "end_column" Json.index? }

def DocComment.ofJson? (j : Json) : Option DocComment := do
  let r ← j.record? ["span", "tags"]
  some {
    span := ← r.required? "span" Span.ofJson?
    tags := ← r.field? "tags" (Json.list? DocTag.ofJson?) [] }

def XmlName.ofJson? (j : Json) : Option XmlName := do
  let r ← j.record? ["prefix", "local"]
  some ⟨← r.optional? "prefix" Json.text?, ← r.required? "local" Json.text?⟩

def TagRole.ofJson? : Json → Option TagRole :=
  Json.name? [("script", .script), ("style", .style), ("component", .component)]

def MarkupAttribute.ofJson? (j : Json) : Option MarkupAttribute := do
  let r ← j.record? ["name", "name_span", "value_span", "raw_value"]
  some {
    name := ← r.required? "name" Json.text?
    nameSpan := ← r.required? "name_span" Span.ofJson?
    valueSpan := ← r.optional? "value_span" Span.ofJson?
    rawValue := ← r.field? "raw_value" Json.text? "" }

def MarkupTag.ofJson? (j : Json) : Option MarkupTag := do
  let r ← j.record? ["name", "role", "span", "open_span", "name_span", "close_name_span",
    "attributes", "script_regions", "parent", "children"]
  some {
    name := ← r.required? "name" XmlName.ofJson?
    role := ← r.field? "role" TagRole.ofJson? .component
    span := ← r.required? "span" Span.ofJson?
    openSpan := ← r.required? "open_span" Span.ofJson?
    nameSpan := ← r.required? "name_span" Span.ofJson?
    closeNameSpan := ← r.optional? "close_name_span" Span.ofJson?
    attributes := ← r.field? "attributes" (Json.list? MarkupAttribute.ofJson?) []
    scriptRegions := ← r.field? "script_regions" (Json.list? Span.ofJson?) []
    parent := ← r.optional? "parent" TagId.ofJson?
    children := ← r.field? "children" (Json.list? TagId.ofJson?) [] }

def MarkupDocument.ofJson? (j : Json) : Option MarkupDocument := do
  let r ← j.record? ["path", "tags", "root"]
  some {
    path := ← r.required? "path" Path.ofJson?
    tags := ← r.field? "tags" (Json.list? MarkupTag.ofJson?) []
    root := ← r.optional? "root" TagId.ofJson? }

def OffsetCue.ofJson? (j : Json) : Option OffsetCue := do
  let r ← j.record? ["local", "adjustment"]
  some ⟨← r.required? "local" Json.offset?, ← r.required? "adjustment" Json.int64?⟩

def UnitKind.ofJson? : Json → Option UnitKind :=
  Json.name? [("script", .script), ("markup", .markup), ("compiled", .compiled)]

namespace FileScope

/-- The states of a file scope: the fields of each and how it reads them. -/
def readers : List (String × List String × (Record → Option FileScope)) :=
  [("ready", ["definitions"], fun r => do
      some (.ready (← r.field? "definitions" (Json.list? DefId.ofJson?) []))),
    ("failed", ["reason"], fun r => do
      some (.failed (← r.required? "reason" Json.text?)))]

/-- A file scope, which stands at the fourth level of a snapshot. Its array form starts with the
tag. -/
def ofJson? (j : Json) : Option FileScope :=
  match j with
  | .array (tag :: items) => do
    let (fields, read) ← tag.tag? false readers
    if items.all fun item => item.isKept (nestingLimit - 4) then
      read (← (Json.array items).record? fields)
    else none
  | _ => do
    let (own, others) ← j.shared? (nestingLimit - 4) ["status"]
    let (fields, read) ← own.required? "status" (Json.tag? false readers)
    read (← others.select? fields)

end FileScope

def UnitSnapshot.ofJson? (j : Json) : Option UnitSnapshot := do
  let r ← j.record? ["path", "kind", "text", "ast", "scope", "root_definition", "doc_comments",
    "markup"]
  some {
    path := ← r.required? "path" Path.ofJson?
    kind := ← r.required? "kind" UnitKind.ofJson?
    text := ← r.optional? "text" Json.text?
    ast := ← r.optional? "ast" NodeId.ofJson?
    scope := ← r.field? "scope" FileScope.ofJson? (.ready [])
    rootDefinition := ← r.optional? "root_definition" DefId.ofJson?
    docComments := ← r.field? "doc_comments" (Json.list? DocComment.ofJson?) []
    markup := ← r.optional? "markup" MarkupDocument.ofJson? }

def NodeBinding.ofJson? (j : Json) : Option NodeBinding := do
  let r ← j.record? ["node", "definition"]
  some ⟨← r.required? "node" NodeId.ofJson?, ← r.required? "definition" DefId.ofJson?⟩

def TagBinding.ofJson? (j : Json) : Option TagBinding := do
  let r ← j.record? ["unit", "tag", "attribute", "definition"]
  some {
    unit := ← r.required? "unit" UnitId.ofJson?
    tag := ← r.required? "tag" TagId.ofJson?
    attr := ← r.optional? "attribute" Json.offset?
    definition := ← r.required? "definition" DefId.ofJson? }

def OverrideLink.ofJson? (j : Json) : Option OverrideLink := do
  let r ← j.record? ["function", "overrides"]
  some ⟨← r.required? "function" DefId.ofJson?, ← r.required? "overrides" DefId.ofJson?⟩

/-- An include, which stands at the third level of a snapshot. -/
def IncludeSnapshot.ofJson? (j : Json) : Option IncludeSnapshot := do
  let (own, others) ← j.shared? (nestingLimit - 3) ["path"]
  let splice ← others.select? ["parent", "cues"]
  some {
    path := ← own.required? "path" Path.ofJson?
    splice := {
      parent := ← splice.required? "parent" Path.ofJson?
      cues := ← splice.required? "cues" (Json.list? OffsetCue.ofJson?) } }

namespace Snapshot

def ofJson? (j : Json) : Option Snapshot := do
  let r ← j.record? ["fallback", "units", "nodes", "definitions", "bindings", "tag_bindings",
    "overrides", "includes"]
  some {
    fallback := ← r.field? "fallback" Json.bool? false
    units := ← r.field? "units" (Json.list? UnitSnapshot.ofJson?) []
    nodes := ← r.field? "nodes" (Json.list? SyntaxNode.ofJson?) []
    definitions := ← r.field? "definitions" (Json.list? Definition.ofJson?) []
    bindings := ← r.field? "bindings" (Json.list? NodeBinding.ofJson?) []
    tagBindings := ← r.field? "tag_bindings" (Json.list? TagBinding.ofJson?) []
    overrides := ← r.field? "overrides" (Json.list? OverrideLink.ofJson?) []
    includes := ← r.field? "includes" (Json.list? IncludeSnapshot.ofJson?) [] }

/-- Read the text of a snapshot. -/
def parse? (text : String) : Option Snapshot :=
  (Json.parse? text).bind ofJson?

end Snapshot

end SymbolNav
