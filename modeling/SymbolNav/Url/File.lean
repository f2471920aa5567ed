import SymbolNav.FileName
import SymbolNav.Url.Basic

/-!
# Files as addresses

An absolute path becomes a `file` address component by component. The way back takes every address
that has a path and no host, decodes the path and drops query and fragment.
-/

namespace SymbolNav

/-- A component as it stands in an address. -/
def Path.Component.encoded : Path.Component → List Char
  | .root => []
  | .here => ['.']
  | .up => ['.', '.']
  | .name text => Url.percentEncode Url.segmentSet text

/-- The address of an absolute path. -/
def Path.toUrl? (p : Path) : Option String :=
  match p.components with
  | .root :: [] => some "file:///"
  | .root :: names =>
    some ("file://" ++ String.ofList (names.flatMap fun c => '/' :: c.encoded))
  | _ => none

/-- A name that ends in a drive gets a slash behind it. -/
def Url.closeDrive (bytes : List UInt8) : List UInt8 :=
  match bytes.reverse with
  | mark :: letter :: _ :: _ =>
    if (mark = ':'.toUInt8 || mark = '|'.toUInt8) && (Char.ofUInt8 letter).isAlpha then
      bytes ++ Text.encode ['/']
    else bytes
  | _ => bytes

/-- The file that an address without a host names. -/
def Url.fileName? (u : Url) : Option FileName :=
  match u.route with
  | .plain _ => none
  | .segments [] => none
  | .segments all =>
    if u.authority.all fun a => a.host.all Host.isLocal then
      some ⟨closeDrive (all.flatMap fun s => Text.encode ['/'] ++ percentDecode s)⟩
    else none

end SymbolNav
