import SymbolNav.Draft.Definitions

/-!
# Steps

A draft is grown step by step. A step answers what it added or found.
-/

namespace SymbolNav.Draft

inductive Step where
  | script (path : Path) (text : String)
  | markup (path : Path) (text : String)
  | failScope (unit : UnitId) (reason : String)
  | splice (path parent : Path) (cues : List OffsetCue)
  | spanOf (unit : UnitId) (needle : String) (nth : Nat)
  | node (unit : UnitId) (kind : NodeKind) (span : Span)
  | nodeAt (unit : UnitId) (kind : NodeKind) (needle : String) (nth : Nat)
  | reference (unit : UnitId) (name : String) (nth : Nat) (definition : Option DefId)
  | setVisibility (definition : DefId) (visibility : Visibility)
  | package (unit : UnitId) (name : String)
  | classDecl (unit : UnitId) (owner : Option DefId) (name : String)
  | markupClass (unit : UnitId) (owner : Option DefId) (name : String)
  | extend (unit : UnitId) (id base : DefId)
  | method (unit : UnitId) (owner : DefId) (name : String)
  | localFunction (unit : UnitId) (owner : DefId) (name : String)
  | constructor (unit : UnitId) (owner : DefId)
  | field (unit : UnitId) (owner : DefId) (name : String)
  | localVariable (unit : UnitId) (owner : DefId) (name : String)
  | idField (unit : UnitId) (owner : DefId) (name : String)
  | libraryClass (library : Path) (packageName name : String)
  | libraryMember (owner : DefId) (name : String)
  | override (function overridden : DefId)
  | tag (unit : UnitId) (name : String) (nth : Nat)
  | bindTag (unit : UnitId) (tag : TagId) (attr : Option Nat) (definition : DefId)
  | docComment (unit : UnitId) (nth : Nat)
deriving Repr

/-- What a step answers. -/
inductive Found where
  | nothing
  | unit (id : UnitId)
  | node (id : NodeId)
  | definition (id : DefId)
  | tag (id : TagId)
  | span (span : Span)
deriving DecidableEq, Repr

/-- Carry out one step. -/
def perform : Step → Build Found
  | .script path text => .unit <$> script path text
  | .markup path text => .unit <$> markup path text
  | .failScope u reason => do failScope u reason; return .nothing
  | .splice path parent cues => do splice path parent cues; return .nothing
  | .spanOf u needle nth => .span <$> spanOf u needle nth
  | .node u kind span => .node <$> addNode u kind span
  | .nodeAt u kind needle nth => do
    let span ← spanOf u needle nth
    .node <$> addNode u kind span
  | .reference u name nth definition => .node <$> reference u name nth definition
  | .setVisibility id visibility => do setVisibility id visibility; return .nothing
  | .package u name => .definition <$> package u name
  | .classDecl u owner name => .definition <$> declareClass u owner name
  | .markupClass u owner name => .definition <$> markupClass u owner name
  | .extend u id base => do extend u id base; return .nothing
  | .method u owner name => .definition <$> method u owner name
  | .localFunction u owner name => .definition <$> localFunction u owner name
  | .constructor u owner => .definition <$> constructor u owner
  | .field u owner name => .definition <$> field u owner name
  | .localVariable u owner name => .definition <$> localVariable u owner name
  | .idField u owner name => .definition <$> idField u owner name
  | .libraryClass library packageName name => .definition <$> libraryClass library packageName name
  | .libraryMember owner name => .definition <$> libraryMember owner name
  | .override function overridden => do override function overridden; return .nothing
  | .tag u name nth => .tag <$> tag u name nth
  | .bindTag u t attr definition => do bindTag u t attr definition; return .nothing
  | .docComment u nth => do docComment u nth; return .nothing

/-- Carry out steps one after the other. The answers end with the step that fails, if one does. -/
def run (d : Draft) : List Step → List Found × Except DraftError Draft
  | [] => ([], .ok d)
  | step :: rest =>
    match (perform step).run d with
    | .error e => ([], .error e)
    | .ok (found, grown) =>
      let (more, result) := run grown rest
      (found :: more, result)

/-- The draft that steps grow from nothing. -/
def build (steps : List Step) : Except DraftError Draft :=
  (run {} steps).2

end SymbolNav.Draft
