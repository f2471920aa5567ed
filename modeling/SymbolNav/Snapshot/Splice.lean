import SymbolNav.Path
import SymbolNav.Text.Span

/-!
# Included files

A file that another one includes is compiled as part of it, so offsets in the included file have to
be shifted into the text of the including one. Cues say by how much: each governs the offsets from
its own on, up to the next cue.
-/

namespace SymbolNav

/-- From `start` on, offsets are shifted by `adjustment`. -/
structure OffsetCue where
  start : Nat
  adjustment : Int
deriving DecidableEq, Repr

/-- How the text of one file is spliced into the unit that includes it. -/
structure IncludeSplice where
  /-- The including file. -/
  parent : Path
  cues : List OffsetCue
deriving DecidableEq, Repr

namespace IncludeSplice

/-- A splice with its cues in the order of their offsets; cues of one offset keep their order. -/
def ofCues (parent : Path) (cues : List OffsetCue) : IncludeSplice :=
  ⟨parent, cues.mergeSort fun a b => a.start ≤ b.start⟩

/-- The last of the leading cues that start at or before the offset. -/
def governing? (s : IncludeSplice) (offset : Nat) : Option OffsetCue :=
  (s.cues.takeWhile (·.start ≤ offset)).getLast?

/-- The offset in the including text, unless no cue governs the offset or the sum is out of range.
-/
def toEffective? (s : IncludeSplice) (offset : Nat) : Option Nat :=
  (s.governing? offset).bind fun cue =>
    let sum := (offset : Int) + cue.adjustment
    if 0 ≤ sum ∧ sum < offsetLimit then some sum.toNat else none

end IncludeSplice

end SymbolNav
