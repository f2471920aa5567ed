import SymbolNav.Markup.Scan

/-!
# The tree of tags

Start tags and end tags are put together to a tree. A start tag goes below the tag that was opened
last and is still open; an end tag closes that tag, whatever its name. The first tag below no other
is the root.
-/

namespace SymbolNav.Markup

/-- The tags seen so far and those still open, the last one first. -/
structure Tree where
  tags : List MarkupTag := []
  opened : List TagId := []
  root : Option TagId := none

namespace Tree

/-- Add a tag below the one that is open. -/
def start (t : Tree) (tag : MarkupTag) (selfClosing : Bool) : Tree :=
  let id : TagId := ⟨t.tags.length⟩
  let parent := t.opened.head?
  let linked := match parent with
    | none => t.tags
    | some parent => t.tags.modify parent.index fun p => { p with children := p.children ++ [id] }
  { tags := linked ++ [{ tag with parent }]
    opened := if selfClosing then t.opened else id :: t.opened
    root := if parent.isNone then t.root.or (some id) else t.root }

/-- Close the tag that is open. -/
def close (t : Tree) (name : Span) (stop : Nat) : Tree :=
  match t.opened with
  | [] => t
  | id :: opened =>
    { t with
      tags := t.tags.modify id.index fun tag =>
        { tag with closeNameSpan := some name, span := ⟨tag.span.start, stop⟩ }
      opened }

def step (t : Tree) : Event → Tree
  | .opened tag selfClosing => t.start tag selfClosing
  | .closed name stop => t.close name stop

def ofEvents (events : List Event) : Tree :=
  events.foldl step {}

end Tree

/-- The document that a text holds. -/
def document (path : Path) (text : String) : MarkupDocument :=
  let tree := Tree.ofEvents (scan text.toList)
  ⟨path, tree.tags, tree.root⟩

end SymbolNav.Markup
