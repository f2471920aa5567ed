import SymbolNav.Path
import SymbolNav.Snapshot.Id
import SymbolNav.Text.Span

/-!
# Definitions

What names stand for: packages, classes, interfaces, functions and variables.
-/

namespace SymbolNav

inductive Visibility where
  | pub
  | internal
  | prot
  | priv
deriving DecidableEq, Repr

/-- Where a variable is declared. -/
inductive VariableClass where
  | localScope
  | parameter
  | classMember
  | interfaceMember
  | packageMember
  | fileMember
deriving DecidableEq, Repr

/-- Where a function is declared. -/
inductive FunctionClass where
  | localScope
  | classMember
  | interfaceMember
  | packageMember
  | fileMember
deriving DecidableEq, Repr

inductive DefinitionKind where
  | package (members : List DefId)
  | classType (constructor : Option DefId) (members : List DefId)
  | interfaceType (members : List DefId)
  | function (classification : FunctionClass) (isOverride : Bool)
  | var (classification : VariableClass)
deriving DecidableEq, Repr

/-- A class, interface, function, variable or package. -/
structure Definition where
  /-- The name by itself, such as `Button`. -/
  name : String
  /-- The name with what it belongs to, such as `spark.components.Button`. -/
  qualifiedName : String
  kind : DefinitionKind
  visibility : Visibility
  /-- The source file or library archive that declares it. -/
  containingFile : Path
  parent : Option DefId
  /-- Where its name stands in the containing file. -/
  nameSpan : Option Span
deriving DecidableEq, Repr

namespace Definition

def isPackage (d : Definition) : Bool :=
  match d.kind with
  | .package _ => true
  | _ => false

def isClass (d : Definition) : Bool :=
  match d.kind with
  | .classType _ _ => true
  | _ => false

/-- Classes and interfaces are types. -/
def isType (d : Definition) : Bool :=
  match d.kind with
  | .classType _ _ => true
  | .interfaceType _ => true
  | _ => false

def isFunction (d : Definition) : Bool :=
  match d.kind with
  | .function _ _ => true
  | _ => false

def isVariable (d : Definition) : Bool :=
  match d.kind with
  | .var _ => true
  | _ => false

def isOverride (d : Definition) : Bool :=
  match d.kind with
  | .function _ isOverride => isOverride
  | _ => false

def isPrivate (d : Definition) : Bool :=
  d.visibility = .priv

/-- Local variables and local functions are seen inside their unit only. -/
def isLocal (d : Definition) : Bool :=
  match d.kind with
  | .var .localScope => true
  | .function .localScope _ => true
  | _ => false

def constructor? (d : Definition) : Option DefId :=
  match d.kind with
  | .classType constructor _ => constructor
  | _ => none

/-- The members that a package or type declares itself. -/
def members (d : Definition) : List DefId :=
  match d.kind with
  | .package members => members
  | .classType _ members => members
  | .interfaceType members => members
  | _ => []

end Definition

end SymbolNav
