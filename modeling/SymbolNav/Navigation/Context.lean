import SymbolNav.Navigation.Resolve

/-!
# What a request is answered from

A request comes with a document and a position in it. It is answered from a project, under options
that say how files are classified, and with a resolver that says how much may be read into a name.
-/

namespace SymbolNav

/-- The two languages of source documents. -/
inductive Dialect where
  | script
  | markup
deriving DecidableEq, Repr

/-- How files and definitions are classified. -/
structure Options where
  markupExtensions : List String := ["mxml"]
  libraryExtensions : List String := ["swc", "ane"]
  /-- Rename a file together with the definition it is named after. -/
  fileRename : Bool := true
deriving DecidableEq, Repr

namespace Options

def dialect (o : Options) (path : Path) : Dialect :=
  if path.hasExtension o.markupExtensions then .markup else .script

/-- The file is a library archive. -/
def isLibrary (o : Options) (path : Path) : Bool :=
  path.hasExtension o.libraryExtensions

end Options

/-- The document that a request is about, with the text the editor shows. -/
structure SourceDocument where
  path : Path
  dialect : Dialect
  text : String
deriving DecidableEq, Repr

structure Context where
  project : Project
  options : Options := {}
  resolver : Resolver := .standard
  /-- The client has cancelled the request. -/
  cancelled : Bool := false

/-- Stop if the request has been cancelled. -/
def Context.checkpoint (ctx : Context) : Answer Unit :=
  if ctx.cancelled then .error .cancelled else .ok ()

end SymbolNav
