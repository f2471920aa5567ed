import SymbolNav.Navigation.Scope
import SymbolNav.Text.Blank
import SymbolNav.Text.Word

/-!
# References in documentation comments

The first word of a tag such as `@see` may refer to a type, to a member of a type, or to a member of
the file's own type: `pkg.Type`, `pkg.Type#member`, `Type#member()`, `#member`. `parse?` reads such
a word and `render` writes it.
-/

namespace SymbolNav

/-- A reference by name. -/
structure DocReference where
  /-- The type, or `none` for the one of the commented file. -/
  typeName : Option (List Char)
  member : Option (List Char)
  /-- The member is written with parentheses. -/
  mustBeFunction : Bool
deriving DecidableEq, Repr

namespace DocReference

/-- One or more word characters. -/
def isWord (text : List Char) : Bool :=
  text ≠ [] && text.all Text.isWordChar

/-- Words with dots between them. -/
def isQualified (text : List Char) : Bool :=
  (text.splitOn '.').all isWord

/-- The member name and whether parentheses follow it. -/
def splitCall (member : List Char) : List Char × Bool :=
  match member.reverse with
  | ')' :: '(' :: name => (name.reverse, true)
  | _ => (member, false)

/-- Read a word as a reference. -/
def parse? (token : List Char) : Option DocReference :=
  let owner := token.takeWhile (· ≠ '#')
  match token.dropWhile (· ≠ '#') with
  | [] => if isQualified owner then some ⟨some owner, none, false⟩ else none
  | _ :: member =>
    let (name, isCall) := splitCall member
    if isWord name && (owner = [] || isQualified owner) then
      some ⟨if owner = [] then none else some owner, some name, isCall⟩
    else none

/-- Write a reference. -/
def render (r : DocReference) : List Char :=
  r.typeName.getD [] ++
    (match r.member with
      | none => []
      | some member => '#' :: member) ++
    (if r.mustBeFunction then ['(', ')'] else [])

end DocReference

/-- The first word of a tag's description and where it stands. -/
def DocTag.referenceToken? (t : DocTag) : Option (List Char × PositionRange) :=
  let description := t.description.toList
  match Text.firstWord description with
  | [] => none
  | token =>
    let blanks := description.takeWhile Text.isBlank
    let start := moveColumn t.descriptionColumn (Text.utf16Length blanks)
    some (token, ⟨⟨t.line, start⟩, ⟨t.line, moveColumn start (Text.utf16Length token)⟩⟩)

namespace Project

/-- The definition that a type name refers to: by its qualified name, or in the package of the unit
if the name has no dot. Only types have members. -/
def typeByName? (p : Project) (u : UnitId) (name : List Char) (hasMember : Bool) : Option DefId :=
  let lookup (name : String) : Option DefId :=
    (p.byQualifiedName? name).filter fun d => !hasMember || p.defines d (·.isType)
  (lookup (String.ofList name)).or
    (if name.contains '.' then none
      else (p.packageName? u).bind fun package => lookup (package ++ "." ++ String.ofList name))

/-- The first member of the owner with the name. -/
def memberByName? (p : Project) (owner : DefId) (name : List Char) (mustBeFunction : Bool) :
    Option DefId :=
  (p.definition? owner).bind fun definition =>
    definition.members.find? fun d => p.defines d fun member =>
      member.name.toList = name && (!mustBeFunction || member.isFunction)

/-- What a reference in a comment of the unit refers to. -/
def referenceTarget? (p : Project) (u : UnitId) (r : DocReference) : Option DefId := do
  let owner ← match r.typeName with
    | some name => p.typeByName? u name r.member.isSome
    | none => p.primary? u
  match r.member with
  | some member => p.memberByName? owner member r.mustBeFunction
  | none => some owner

/-- What the reference at a position of a comment refers to, and where the reference stands. -/
def docReference? (p : Project) (u : UnitId) (comment : DocComment) (position : Position) :
    Option (DefId × PositionRange) := do
  let (_, tag) ← comment.tagAt? position
  let (token, origin) ← tag.referenceToken?
  let reference ← DocReference.parse? token
  let target ← p.referenceTarget? u reference
  some (target, origin)

end Project

end SymbolNav
