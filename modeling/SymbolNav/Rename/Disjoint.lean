import SymbolNav.Text.Span

/-!
# Spans that do not overlap

Edits of one text must not overlap. Of a list of spans, `disjoint` keeps those that start where the
span kept before has ended, in the order of their starts; of the spans with one start the shortest
is kept.
-/

namespace SymbolNav.Rename

/-- By start, then by end. -/
def comesBefore (a b : Span) : Bool :=
  a.start < b.start || (a.start = b.start && a.stop ≤ b.stop)

/-- The spans of a list that start at or behind a bound, each of which moves the bound to its end.
-/
def keepFrom (bound : Nat) : List Span → List Span
  | [] => []
  | s :: rest => if s.start < bound then keepFrom bound rest else s :: keepFrom s.stop rest

/-- Sort the spans and drop those that overlap one in front of them. -/
def disjoint (spans : List Span) : List Span :=
  keepFrom 0 (spans.mergeSort comesBefore)

end SymbolNav.Rename
