import SymbolNav.Snapshot.Id
import SymbolNav.Text.Span

/-!
# Syntax nodes

Nodes are linked by handles in both directions: to the parent and to the children. Only the shapes
that navigation looks at are told apart.
-/

namespace SymbolNav

/-- Keywords that can stand in for a definition. -/
inductive Keyword where
  | this
  | super
  | other
deriving DecidableEq, Repr

/-- The shape of a syntax node. -/
inductive NodeKind where
  /-- A reference by name, or the name in a declaration. -/
  | identifier (name : String)
  | keyword (word : Keyword)
  /-- A class declaration with its name and what it extends. -/
  | classDecl (name : NodeId) (base : Option NodeId)
  /-- A declaration of anything else. -/
  | declaration (name : NodeId)
  /-- A call, or a `new` expression. -/
  | call (isNew : Bool)
  /-- Access to a member: `left.right`. -/
  | memberAccess (left right : NodeId)
  /-- The body of a style tag in a markup unit. -/
  | styleBlock
  | other
deriving DecidableEq, Repr

/-- A node of a syntax tree. -/
structure SyntaxNode where
  kind : NodeKind
  /-- Where the node stands in the text of its unit. -/
  span : Span
  parent : Option NodeId
  children : List NodeId
deriving DecidableEq, Repr

namespace SyntaxNode

def identifier? (n : SyntaxNode) : Option String :=
  match n.kind with
  | .identifier name => some name
  | _ => none

def isIdentifier (n : SyntaxNode) : Bool :=
  n.identifier?.isSome

def keyword? (n : SyntaxNode) : Option Keyword :=
  match n.kind with
  | .keyword word => some word
  | _ => none

def isNewCall (n : SyntaxNode) : Bool :=
  n.kind = .call true

/-- The name in a declaration. -/
def declaredName? (n : SyntaxNode) : Option NodeId :=
  match n.kind with
  | .classDecl name _ => some name
  | .declaration name => some name
  | _ => none

/-- The name of a class declaration and what it extends. -/
def classParts? (n : SyntaxNode) : Option (NodeId × Option NodeId) :=
  match n.kind with
  | .classDecl name base => some (name, base)
  | _ => none

def isClassDecl (n : SyntaxNode) : Bool :=
  n.classParts?.isSome

/-- Both operands of a member access. -/
def memberAccess? (n : SyntaxNode) : Option (NodeId × NodeId) :=
  match n.kind with
  | .memberAccess left right => some (left, right)
  | _ => none

def isStyleBlock (n : SyntaxNode) : Bool :=
  n.kind = .styleBlock

end SyntaxNode

end SymbolNav
