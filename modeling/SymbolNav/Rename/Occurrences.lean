import SymbolNav.Navigation.Context

/-!
# Where a definition occurs

A definition occurs in script where an identifier resolves to it, and in markup where the name of a
tag or attribute is bound to it. A field of a markup class also occurs in the `id` attributes that
declare it. Overrides count as the function that introduced them.
-/

namespace SymbolNav

namespace Project

/-- The class of a markup unit, none if it is not known. -/
def rootDefinition? (p : Project) (u : UnitId) : Option DefId :=
  match p.rootDefinition u with
  | .ok d => d
  | .error _ => none

/-- A definition stands for one of the targets. -/
def isOneOf (p : Project) (targets : List DefId) (d : Option DefId) : Bool :=
  d.any fun d => targets.contains (p.baseDeclaration d)

/-- The field of a markup class that `id` attributes of the unit declare. -/
def isIdField (p : Project) (u : UnitId) (target : Definition) : Bool :=
  target.isVariable && target.parent.isSome && p.rootDefinition? u = target.parent

/-- Occurrences in one attribute. -/
def attributeOccurrences (p : Project) (u : UnitId) (targets : List DefId) (target : Definition)
    (tag : TagId) (index : Nat) (attr : MarkupAttribute) : List Span :=
  (if p.isOneOf targets (p.attributeBinding? u tag index) then [attr.nameSpan] else []) ++
    (if p.isIdField u target && attr.name = idAttribute && attr.rawValue = target.name then
      attr.valueSpan.toList else [])

/-- Occurrences in one tag. -/
def tagOccurrences (p : Project) (u : UnitId) (targets : List DefId) (target : Definition)
    (id : TagId) (tag : MarkupTag) : List Span :=
  (if p.isOneOf targets (p.tagBinding? u id) then
      tag.localNameSpan :: tag.closeLocalNameSpan?.toList else []) ++
    tag.attributes.zipIdx.flatMap fun (attr, index) =>
      p.attributeOccurrences u targets target id index attr

/-- Occurrences in the markup of a unit, which counts only if it has a root tag. -/
def markupOccurrences (p : Project) (u : UnitId) (targets : List DefId) (target : Definition) :
    List Span :=
  match p.markup? u with
  | none => []
  | some m =>
    if m.rootTag?.isSome then
      m.tags.zipIdx.flatMap fun (tag, index) => p.tagOccurrences u targets target ⟨index⟩ tag
    else []

end Project

namespace Context

/-- The identifier at a node, if it resolves to one of the targets. -/
def nodeOccurrence (ctx : Context) (targets : List DefId) (id : NodeId) (node : SyntaxNode) :
    Answer (List Span) :=
  if node.isIdentifier then do
    let resolved ← ctx.resolver.identifier ctx.project id
    .ok (if ctx.project.isOneOf targets resolved then [node.span] else [])
  else .ok []

/-- Occurrences in the tree below a node, at most `depth` nodes deep. -/
def treeOccurrences (ctx : Context) (targets : List DefId) :
    (depth : Nat) → NodeId → Answer (List Span)
  | depth, id =>
    match ctx.project.node? id with
    | none => .ok []
    | some node =>
      match depth with
      | 0 => .error .endless
      | depth + 1 => do
        let own ← ctx.nodeOccurrence targets id node
        let below ← node.children.mapM (ctx.treeOccurrences targets depth)
        .ok (own ++ below.flatten)

/-- Occurrences in the syntax tree of a unit. -/
def scriptOccurrences (ctx : Context) (u : UnitId) (targets : List DefId) : Answer (List Span) :=
  match ctx.project.ast? u with
  | none => .ok []
  | some root => ctx.treeOccurrences targets ctx.project.snapshot.nodes.length root

/-- All occurrences in a unit. -/
def occurrences (ctx : Context) (u : UnitId) (targets : List DefId) (target : Definition) :
    Answer (List Span) := do
  let script ← ctx.scriptOccurrences u targets
  .ok (ctx.project.markupOccurrences u targets target ++ script)

end Context

end SymbolNav
