import SymbolNav.Text.Digits
import SymbolNav.Text.Utf8

/-!
# Percent-encoding

A byte that may not stand in some part of an address is written as a percent sign and two upper-case
hexadecimal digits. Each part has its own set of characters to encode; all of them encode control
characters and everything outside ASCII.
-/

namespace SymbolNav.Url

def encodeByte (b : UInt8) : List Char :=
  '%' :: [b.toNat / 16, b.toNat % 16].map fun d => (Nat.digitChar d).toUpper

def isControl (c : Char) : Bool :=
  c.toNat < 0x20 || 0x7F ≤ c.toNat

/-- Encode control characters, characters outside ASCII, and those of the given set. -/
def percentEncode (set : List Char) (text : List Char) : List Char :=
  text.flatMap fun c =>
    if isControl c || set.contains c then (Text.encode [c]).flatMap encodeByte else [c]

/-- The bytes that a percent-encoded text stands for. A percent sign that two hexadecimal digits do
not follow stands for itself. -/
def percentDecode : List Char → List UInt8
  | [] => []
  | '%' :: a :: b :: rest =>
    match Text.digitValue? a, Text.digitValue? b with
    | some x, some y => UInt8.ofNat (16 * x + y) :: percentDecode rest
    | _, _ => Text.encode ['%'] ++ percentDecode (a :: b :: rest)
  | c :: rest => Text.encode [c] ++ percentDecode rest

def fragmentSet : List Char := [' ', '"', '<', '>', '\x60']

def querySet : List Char := [' ', '"', '#', '<', '>']

def specialQuerySet : List Char := '\'' :: querySet

def pathSet : List Char := ['#', '?', '\x7b', '\x7d'] ++ fragmentSet

/-- For one component of a path that is turned into an address. -/
def segmentSet : List Char := ['/', '%', '\\'] ++ pathSet

/-- For the part in front of a host that names a user. -/
def userSet : List Char := ['/', ':', ';', '=', '@', '[', '\\', ']', '^', '|'] ++ pathSet

end SymbolNav.Url
