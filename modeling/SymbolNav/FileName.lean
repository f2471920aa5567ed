import SymbolNav.Path
import SymbolNav.Text.Utf8

/-!
# Names of files

The name of a file consists of bytes, which need not be UTF-8. Only a name that is UTF-8 is a path;
any other one is shown with replacement characters, and never names the same file as a path.
-/

namespace SymbolNav

/-- The name of a file from the root on. -/
structure FileName where
  bytes : List UInt8
deriving DecidableEq, Repr

namespace FileName

/-- The path of a name that is UTF-8. -/
def path? (n : FileName) : Option Path :=
  (Text.decode? n.bytes).map fun text => ⟨String.ofList text⟩

/-- The name as it is shown. -/
def shown (n : FileName) : Path :=
  ⟨String.ofList (Text.decode n.bytes)⟩

/-- What stands behind the last dot is UTF-8. -/
def hasReadableExtension (n : FileName) : Bool :=
  (Text.decode? (n.bytes.reverse.takeWhile (· ≠ '.'.toUInt8)).reverse).isSome

/-- The directory that the name leads to as far as it is UTF-8. -/
def readablePart (n : FileName) : Path :=
  let readable := ((n.bytes.splitOn '/'.toUInt8).map Text.decode?).takeWhile Option.isSome
  match Path.joinSegments (readable.filterMap id) with
  | [] => ⟨"/"⟩
  | text => ⟨String.ofList text⟩

end FileName

end SymbolNav
