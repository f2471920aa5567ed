import SymbolNav.Json.Basic
import SymbolNav.Snapshot.Basic

/-!
# Snapshots as JSON

Every field is written, absent ones as `null`. A node, a definition and an include share one object
with their kind or splice.
-/

namespace SymbolNav

open Json (ofNat)

def Span.toJson (s : Span) : Json :=
  .record [("start", ofNat s.start), ("end", ofNat s.stop)]

def Path.toJson (p : Path) : Json := .text p.text

def UnitId.toJson (id : UnitId) : Json := ofNat id.index

def NodeId.toJson (id : NodeId) : Json := ofNat id.index

def DefId.toJson (id : DefId) : Json := ofNat id.index

def TagId.toJson (id : TagId) : Json := ofNat id.index

namespace Keyword

def name : Keyword → String
  | .this => "this"
  | .super => "super"
  | .other => "other"

end Keyword

/-- The members that tell a node's kind. -/
def NodeKind.toMembers : NodeKind → List (String × Json)
  | .identifier name => [("kind", .text "identifier"), ("name", .text name)]
  | .keyword word => [("kind", .text "keyword"), ("keyword", .text word.name)]
  | .classDecl name base =>
    [("kind", .text "class_decl"), ("name", name.toJson), ("base", .option NodeId.toJson base)]
  | .declaration name => [("kind", .text "declaration"), ("name", name.toJson)]
  | .call isNew => [("kind", .text "call"), ("is_new", .bool isNew)]
  | .memberAccess left right =>
    [("kind", .text "member_access"), ("left", left.toJson), ("right", right.toJson)]
  | .styleBlock => [("kind", .text "style_block")]
  | .other => [("kind", .text "other")]

def SyntaxNode.toJson (n : SyntaxNode) : Json :=
  .record (n.kind.toMembers ++
    [("span", n.span.toJson), ("parent", .option NodeId.toJson n.parent),
      ("children", .list NodeId.toJson n.children)])

namespace Visibility

def name : Visibility → String
  | .pub => "public"
  | .internal => "internal"
  | .prot => "protected"
  | .priv => "private"

end Visibility

namespace VariableClass

def name : VariableClass → String
  | .localScope => "local"
  | .parameter => "parameter"
  | .classMember => "class_member"
  | .interfaceMember => "interface_member"
  | .packageMember => "package_member"
  | .fileMember => "file_member"

end VariableClass

namespace FunctionClass

def name : FunctionClass → String
  | .localScope => "local"
  | .classMember => "class_member"
  | .interfaceMember => "interface_member"
  | .packageMember => "package_member"
  | .fileMember => "file_member"

end FunctionClass

/-- The members that tell a definition's kind. -/
def DefinitionKind.toMembers : DefinitionKind → List (String × Json)
  | .package members => [("kind", .text "package"), ("members", .list DefId.toJson members)]
  | .classType constructor members =>
    [("kind", .text "class"), ("constructor", .option DefId.toJson constructor),
      ("members", .list DefId.toJson members)]
  | .interfaceType members => [("kind", .text "interface"), ("members", .list DefId.toJson members)]
  | .function classification isOverride =>
    [("kind", .text "function"), ("classification", .text classification.name),
      ("is_override", .bool isOverride)]
  | .var classification =>
    [("kind", .text "variable"), ("classification", .text classification.name)]

def Definition.toJson (d : Definition) : Json :=
  .record ([("name", .text d.name), ("qualified_name", .text d.qualifiedName)] ++
    d.kind.toMembers ++ [("visibility", .text d.visibility.name),
      ("containing_file", d.containingFile.toJson), ("parent", .option DefId.toJson d.parent),
      ("name_span", .option Span.toJson d.nameSpan)])

def DocTag.toJson (t : DocTag) : Json :=
  .record [("name", .text t.name), ("description", .text t.description), ("line", ofNat t.line),
    ("column", ofNat t.column), ("end_line", ofNat t.endLine), ("end_column", ofNat t.endColumn)]

def DocComment.toJson (c : DocComment) : Json :=
  .record [("span", c.span.toJson), ("tags", .list DocTag.toJson c.tags)]

def XmlName.toJson (n : XmlName) : Json :=
  .record [("prefix", .option .text n.space), ("local", .text n.localPart)]

namespace TagRole

def name : TagRole → String
  | .script => "script"
  | .style => "style"
  | .component => "component"

end TagRole

def MarkupAttribute.toJson (a : MarkupAttribute) : Json :=
  .record [("name", .text a.name), ("name_span", a.nameSpan.toJson),
    ("value_span", .option Span.toJson a.valueSpan), ("raw_value", .text a.rawValue)]

def MarkupTag.toJson (t : MarkupTag) : Json :=
  .record [("name", t.name.toJson), ("role", .text t.role.name), ("span", t.span.toJson),
    ("open_span", t.openSpan.toJson), ("name_span", t.nameSpan.toJson),
    ("close_name_span", .option Span.toJson t.closeNameSpan),
    ("attributes", .list MarkupAttribute.toJson t.attributes),
    ("script_regions", .list Span.toJson t.scriptRegions),
    ("parent", .option TagId.toJson t.parent), ("children", .list TagId.toJson t.children)]

def MarkupDocument.toJson (m : MarkupDocument) : Json :=
  .record [("path", m.path.toJson), ("tags", .list MarkupTag.toJson m.tags),
    ("root", .option TagId.toJson m.root)]

def OffsetCue.toJson (c : OffsetCue) : Json :=
  .record [("local", ofNat c.start), ("adjustment", .int c.adjustment)]

/-- The members that tell a splice. -/
def IncludeSplice.toMembers (s : IncludeSplice) : List (String × Json) :=
  [("parent", s.parent.toJson), ("cues", .list OffsetCue.toJson s.cues)]

namespace UnitKind

def name : UnitKind → String
  | .script => "script"
  | .markup => "markup"
  | .compiled => "compiled"

end UnitKind

def FileScope.toJson : FileScope → Json
  | .ready definitions =>
    .record [("status", .text "ready"), ("definitions", .list DefId.toJson definitions)]
  | .failed reason => .record [("status", .text "failed"), ("reason", .text reason)]

def UnitSnapshot.toJson (u : UnitSnapshot) : Json :=
  .record [("path", u.path.toJson), ("kind", .text u.kind.name), ("text", .option .text u.text),
    ("ast", .option NodeId.toJson u.ast), ("scope", u.scope.toJson),
    ("root_definition", .option DefId.toJson u.rootDefinition),
    ("doc_comments", .list DocComment.toJson u.docComments),
    ("markup", .option MarkupDocument.toJson u.markup)]

def NodeBinding.toJson (b : NodeBinding) : Json :=
  .record [("node", b.node.toJson), ("definition", b.definition.toJson)]

def TagBinding.toJson (b : TagBinding) : Json :=
  .record [("unit", b.unit.toJson), ("tag", b.tag.toJson), ("attribute", .option ofNat b.attr),
    ("definition", b.definition.toJson)]

def OverrideLink.toJson (l : OverrideLink) : Json :=
  .record [("function", l.function.toJson), ("overrides", l.overrides.toJson)]

def IncludeSnapshot.toJson (i : IncludeSnapshot) : Json :=
  .record (("path", i.path.toJson) :: i.splice.toMembers)

def Snapshot.toJson (s : Snapshot) : Json :=
  .record [("fallback", .bool s.fallback), ("units", .list UnitSnapshot.toJson s.units),
    ("nodes", .list SyntaxNode.toJson s.nodes),
    ("definitions", .list Definition.toJson s.definitions),
    ("bindings", .list NodeBinding.toJson s.bindings),
    ("tag_bindings", .list TagBinding.toJson s.tagBindings),
    ("overrides", .list OverrideLink.toJson s.overrides),
    ("includes", .list IncludeSnapshot.toJson s.includes)]

end SymbolNav
