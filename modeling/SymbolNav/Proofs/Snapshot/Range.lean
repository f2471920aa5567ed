import SymbolNav.Snapshot.Reader

/-!
# Snapshots whose numbers are in range

Handles, lines and columns are words of 32 bits, offsets and the indexes of attributes are words of
64 bits, and adjustments are words of 64 bits with a sign. Nothing else is asked of a snapshot:
texts and paths are arbitrary, handles may dangle, and the ends of a span may stand in either order.
-/

namespace SymbolNav

def UnitId.isInRange (id : UnitId) : Bool := id.index < indexLimit

def NodeId.isInRange (id : NodeId) : Bool := id.index < indexLimit

def DefId.isInRange (id : DefId) : Bool := id.index < indexLimit

def TagId.isInRange (id : TagId) : Bool := id.index < indexLimit

def Span.isInRange (s : Span) : Bool :=
  s.start < offsetLimit && s.stop < offsetLimit

def NodeKind.isInRange : NodeKind → Bool
  | .classDecl name base => name.isInRange && base.all NodeId.isInRange
  | .declaration name => name.isInRange
  | .memberAccess left right => left.isInRange && right.isInRange
  | .identifier _ | .keyword _ | .call _ | .styleBlock | .other => true

def SyntaxNode.isInRange (n : SyntaxNode) : Bool :=
  n.kind.isInRange && n.span.isInRange && n.parent.all NodeId.isInRange &&
    n.children.all NodeId.isInRange

def DefinitionKind.isInRange : DefinitionKind → Bool
  | .package members => members.all DefId.isInRange
  | .classType constructor members =>
    constructor.all DefId.isInRange && members.all DefId.isInRange
  | .interfaceType members => members.all DefId.isInRange
  | .function _ _ | .var _ => true

def Definition.isInRange (d : Definition) : Bool :=
  d.kind.isInRange && d.parent.all DefId.isInRange && d.nameSpan.all Span.isInRange

def DocTag.isInRange (t : DocTag) : Bool :=
  t.line < indexLimit && t.column < indexLimit && t.endLine < indexLimit &&
    t.endColumn < indexLimit

def DocComment.isInRange (c : DocComment) : Bool :=
  c.span.isInRange && c.tags.all DocTag.isInRange

def MarkupAttribute.isInRange (a : MarkupAttribute) : Bool :=
  a.nameSpan.isInRange && a.valueSpan.all Span.isInRange

def MarkupTag.isInRange (t : MarkupTag) : Bool :=
  t.span.isInRange && t.openSpan.isInRange && t.nameSpan.isInRange &&
    t.closeNameSpan.all Span.isInRange && t.attributes.all MarkupAttribute.isInRange &&
    t.scriptRegions.all Span.isInRange && t.parent.all TagId.isInRange &&
    t.children.all TagId.isInRange

def MarkupDocument.isInRange (m : MarkupDocument) : Bool :=
  m.tags.all MarkupTag.isInRange && m.root.all TagId.isInRange

def OffsetCue.isInRange (c : OffsetCue) : Bool :=
  c.start < offsetLimit && -Int.ofNat (Nat.pow 2 63) ≤ c.adjustment &&
    c.adjustment < Int.ofNat (Nat.pow 2 63)

def FileScope.isInRange : FileScope → Bool
  | .ready definitions => definitions.all DefId.isInRange
  | .failed _ => true

def UnitSnapshot.isInRange (u : UnitSnapshot) : Bool :=
  u.ast.all NodeId.isInRange && u.scope.isInRange &&
    u.rootDefinition.all DefId.isInRange && u.docComments.all DocComment.isInRange &&
    u.markup.all MarkupDocument.isInRange

def NodeBinding.isInRange (b : NodeBinding) : Bool :=
  b.node.isInRange && b.definition.isInRange

def TagBinding.isInRange (b : TagBinding) : Bool :=
  b.unit.isInRange && b.tag.isInRange && b.attr.all (· < offsetLimit) &&
    b.definition.isInRange

def OverrideLink.isInRange (l : OverrideLink) : Bool :=
  l.function.isInRange && l.overrides.isInRange

def IncludeSnapshot.isInRange (i : IncludeSnapshot) : Bool :=
  i.splice.cues.all OffsetCue.isInRange

def Snapshot.isInRange (s : Snapshot) : Bool :=
  s.units.all UnitSnapshot.isInRange && s.nodes.all SyntaxNode.isInRange &&
    s.definitions.all Definition.isInRange && s.bindings.all NodeBinding.isInRange &&
    s.tagBindings.all TagBinding.isInRange && s.overrides.all OverrideLink.isInRange &&
    s.includes.all IncludeSnapshot.isInRange

end SymbolNav
