/-!
# Handles

Units, syntax nodes, definitions and tags are referred to by their place in the list that holds
them. A handle may dangle: nothing keeps a snapshot from naming a place its lists do not have.

A handle is stored in 32 bits. Here it is a plain number, so the lists are taken to have less than
`2 ^ 32` entries; in a longer one the handles of the later entries would come round to the first.
-/

namespace SymbolNav

/-- A compilation unit of a project. -/
structure UnitId where
  index : Nat
deriving DecidableEq, Repr, Inhabited

/-- A node of a syntax tree. -/
structure NodeId where
  index : Nat
deriving DecidableEq, Repr, Inhabited

/-- A definition. Equal handles mean the same entity. -/
structure DefId where
  index : Nat
deriving DecidableEq, Repr, Inhabited

/-- A tag of one markup document. -/
structure TagId where
  index : Nat
deriving DecidableEq, Repr, Inhabited

end SymbolNav
