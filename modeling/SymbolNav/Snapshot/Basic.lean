import SymbolNav.Snapshot.Definition
import SymbolNav.Snapshot.DocComment
import SymbolNav.Snapshot.Markup
import SymbolNav.Snapshot.Splice
import SymbolNav.Snapshot.SyntaxNode

/-!
# Snapshots

A snapshot is what a compiler knows about a project at one moment: its units with their texts, the
syntax nodes and definitions of all units, and what stands for what. Nothing in it has been checked:
handles may dangle or lead round in a circle, and spans may lie outside their texts.
-/

namespace SymbolNav

/-- What a unit was compiled from. -/
inductive UnitKind where
  | script
  | markup
  /-- A precompiled library. -/
  | compiled
deriving DecidableEq, Repr

namespace UnitKind

def isSource : UnitKind → Bool
  | .script => true
  | .markup => true
  | .compiled => false

end UnitKind

/-- The definitions at the top of a unit, or why they are not known. -/
inductive FileScope where
  | ready (definitions : List DefId)
  | failed (reason : String)
deriving DecidableEq, Repr

structure UnitSnapshot where
  path : Path
  kind : UnitKind
  /-- The text that spans refer to; `none` when the file itself holds it. -/
  text : Option String
  /-- Root of the syntax tree. -/
  ast : Option NodeId
  scope : FileScope
  /-- The class that the root tag of a markup unit declares. -/
  rootDefinition : Option DefId
  docComments : List DocComment
  markup : Option MarkupDocument
deriving DecidableEq, Repr

/-- A node and what it stands for. -/
structure NodeBinding where
  node : NodeId
  definition : DefId
deriving DecidableEq, Repr

/-- A tag and what its name stands for, or what the name of one of its attributes stands for. -/
structure TagBinding where
  unit : UnitId
  tag : TagId
  attr : Option Nat
  definition : DefId
deriving DecidableEq, Repr

/-- A function and the one it overrides, one class up. -/
structure OverrideLink where
  function : DefId
  overrides : DefId
deriving DecidableEq, Repr

/-- An included file. -/
structure IncludeSnapshot where
  path : Path
  splice : IncludeSplice
deriving DecidableEq, Repr

structure Snapshot where
  /-- Set for the project that stands in for files outside every project. -/
  fallback : Bool := false
  units : List UnitSnapshot := []
  nodes : List SyntaxNode := []
  definitions : List Definition := []
  bindings : List NodeBinding := []
  tagBindings : List TagBinding := []
  overrides : List OverrideLink := []
  includes : List IncludeSnapshot := []
deriving DecidableEq, Repr

end SymbolNav
