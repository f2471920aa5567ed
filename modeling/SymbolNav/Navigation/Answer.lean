/-!
# Answers and walks

A request is answered unless something keeps it from coming to an end: its client has cancelled it,
or the handles of the snapshot lead round in a circle and a walk along them never stops.

`walk` follows a step from place to place until there is none. A walk among `n` places that has made
`n` moves and can go on has come back to a place it left before, so it goes on forever; this is what
`endless` reports.

A loop that goes on forever and a recursion that runs out of stack are not told apart: both are
`endless`. The first leaves one request without an answer, while the second, as in a dotted name
that is its own operand, takes the whole server with it.
-/

namespace SymbolNav

/-- What keeps a request from being answered. -/
inductive Interruption where
  | cancelled
  /-- The request goes on forever, or until it runs out of stack. -/
  | endless
deriving DecidableEq, Repr

namespace Interruption

def message : Interruption → String
  | .cancelled => "request was cancelled"
  | .endless => "request never ends"

end Interruption

/-- The answer to a request, or what prevents it. -/
abbrev Answer := Except Interruption

/-- Follow `next` for at most `moves` moves to the place where it stops. -/
def walk (next : α → Option α) : (moves : Nat) → α → Answer α
  | 0, a =>
    match next a with
    | none => .ok a
    | some _ => .error .endless
  | moves + 1, a =>
    match next a with
    | none => .ok a
    | some b => walk next moves b

end SymbolNav
