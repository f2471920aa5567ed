import SymbolNav.Markup.Scan

/-!
# The scanner moves forward

Every part of the scanner goes on from a place behind the one it was given: what is left to read is
a suffix of what was left before. So the tags come in the order of their offsets. `InOrder` says
what the tree needs to know about them: each start tag stands behind all that was read before it
and takes up some room, and each end tag ends behind all that was read before it.
-/

namespace SymbolNav.Text

/-- A later place has fewer bytes behind it. -/
theorem byteLength_le_of_suffix {later rest : List Char} (h : later <:+ rest) :
    byteLength later ≤ byteLength rest := by
  obtain ⟨front, rfl⟩ := h
  rw [byteLength_append]
  omega

end SymbolNav.Text

namespace SymbolNav.Markup

variable {total : Nat} {rest later : List Char}

theorem seek_suffix (needle rest : List Char) : seek needle rest <:+ rest := by
  induction rest with
  | nil => exact List.suffix_refl _
  | cons c rest ih =>
      rw [seek]
      split
      · exact List.suffix_refl _
      · exact ih.trans (List.suffix_cons c rest)

theorem skipPast_suffix (needle rest : List Char) : skipPast needle rest <:+ rest :=
  (List.drop_suffix _ _).trans (seek_suffix needle rest)

/-- What stands behind a character that a search has come to lies behind the start of the search. -/
theorem suffix_of_dropWhile_eq {p : Char → Bool} {more : List Char} {c : Char}
    (h : rest.dropWhile p = c :: more) : more <:+ rest := by
  have hrest := List.dropWhile_suffix p (l := rest)
  rw [h] at hrest
  exact (List.suffix_cons c more).trans hrest

theorem attributeValue_suffix (rest : List Char) : (attributeValue rest).2 <:+ rest := by
  unfold attributeValue
  split
  · rename_i more hequals
    have hmore := suffix_of_dropWhile_eq hequals
    split
    · exact List.nil_suffix
    · rename_i quote value hquote
      split
      · have hvalue := (suffix_of_dropWhile_eq hquote).trans hmore
        exact ((List.drop_suffix _ _).trans (List.dropWhile_suffix _)).trans hvalue
      · rw [← hquote]
        exact (List.dropWhile_suffix _).trans hmore
  · exact List.suffix_refl _

theorem openTail_suffix (total : Nat) (rest : List Char) :
    (openTail total rest).rest <:+ rest := by
  fun_induction openTail total rest with
  | case1 => exact List.nil_suffix
  | case2 rest c more h => exact (List.drop_suffix _ _).trans (suffix_of_dropWhile_eq h)
  | case3 rest more h => exact suffix_of_dropWhile_eq h
  | case4 rest c more h _ _ _ stop value tail ih =>
      have hstop : stop <:+ rest := (List.dropWhile_suffix _).trans (suffix_of_dropWhile_eq h)
      exact ih.trans ((attributeValue_suffix stop).trans hstop)
  | case5 rest c more h _ _ _ ih => exact ih.trans (suffix_of_dropWhile_eq h)

theorem scriptBody_suffix (rest : List Char) : (scriptBody rest).2 <:+ rest := by
  simp only [scriptBody]
  split
  · exact ((seek_suffix _ _).trans (List.drop_suffix _ _)).trans (seek_suffix _ _)
  · exact seek_suffix _ _

theorem tagBody_suffix (total : Nat) (role : TagRole) (tail : OpenTail) :
    (tagBody total role tail).2 <:+ tail.rest := by
  unfold tagBody
  split
  · exact List.suffix_refl _
  · cases role with
    | script => exact (seek_suffix _ _).trans (scriptBody_suffix _)
    | style => exact seek_suffix _ _
    | component => exact List.suffix_refl _

theorem offsetOf_le_of_suffix (h : later <:+ rest) : offsetOf total rest ≤ offsetOf total later :=
  Nat.sub_le_sub_left (Text.byteLength_le_of_suffix h) total

/-- A place behind a character has a greater offset than the character. -/
theorem offsetOf_lt_of_suffix {c : Char} {body : List Char}
    (htotal : Text.byteLength (c :: body) ≤ total) (h : later <:+ body) :
    offsetOf total (c :: body) < offsetOf total later := by
  have hbody := Text.byteLength_le_of_suffix h
  have hc := c.utf8Size_pos
  rw [Text.byteLength_cons] at htotal
  simp only [offsetOf, Text.byteLength_cons]
  omega

/-- The tags stand in the order of their offsets, from `position` on. -/
inductive InOrder : (position : Nat) → List Event → Prop where
  | nil {position : Nat} : InOrder position []
  | opened {position : Nat} {tag : MarkupTag} {selfClosing : Bool} {events : List Event}
      (behind : position ≤ tag.span.start) (room : tag.span.start < tag.span.stop)
      (start : tag.openSpan = tag.span) (childless : tag.children = [])
      (rest : InOrder tag.span.stop events) : InOrder position (.opened tag selfClosing :: events)
  | closed {position stop : Nat} {name : Span} {events : List Event} (behind : position ≤ stop)
      (rest : InOrder stop events) : InOrder position (.closed name stop :: events)

theorem InOrder.mono {position before : Nat} {events : List Event} (h : InOrder position events)
    (hbefore : before ≤ position) : InOrder before events := by
  cases h with
  | nil => exact .nil
  | opened behind room start childless rest =>
      exact .opened (Nat.le_trans hbefore behind) room start childless rest
  | closed behind rest => exact .closed (Nat.le_trans hbefore behind) rest

theorem inOrder_of_suffix {events : List Event} (h : InOrder (offsetOf total later) events)
    (hlater : later <:+ rest) : InOrder (offsetOf total rest) events :=
  h.mono (offsetOf_le_of_suffix hlater)

/-- The tags from a place on stand behind it, in the order of their offsets. -/
theorem inOrder_events (htotal : Text.byteLength rest ≤ total) :
    InOrder (offsetOf total rest) (events total rest) := by
  fun_induction events total rest with
  | case1 => exact .nil
  | case2 rest c body h stop _ ih =>
      have hhere : c :: body <:+ rest := h ▸ List.dropWhile_suffix _
      have hstop := (skipPast_suffix stop (c :: body)).trans hhere
      exact inOrder_of_suffix (ih (Nat.le_trans (Text.byteLength_le_of_suffix hstop) htotal)) hstop
  | case3 rest c body h _ _ name nameStop stop ih =>
      have hname : name <:+ rest := (List.drop_suffix _ _).trans (suffix_of_dropWhile_eq h)
      have hnameStop : nameStop <:+ rest := (List.dropWhile_suffix _).trans hname
      have hstop : stop <:+ rest := (skipPast_suffix _ _).trans hnameStop
      exact .closed (offsetOf_le_of_suffix hstop)
        (ih (Nat.le_trans (Text.byteLength_le_of_suffix hstop) htotal))
  | case4 rest c body h _ _ tail tag ih =>
      have hhere : c :: body <:+ rest := h ▸ List.dropWhile_suffix _
      have htail : tail.rest <:+ body := (openTail_suffix _ _).trans (List.dropWhile_suffix _)
      have hbody : (tagBody total tag.role tail).2 <:+ tail.rest := tagBody_suffix _ _ _
      have hnext := (hbody.trans htail).trans (suffix_of_dropWhile_eq h)
      have hroom := offsetOf_lt_of_suffix
        (Nat.le_trans (Text.byteLength_le_of_suffix hhere) htotal) htail
      have hrest := ih (Nat.le_trans (Text.byteLength_le_of_suffix hnext) htotal)
      exact .opened (offsetOf_le_of_suffix hhere) hroom rfl rfl (inOrder_of_suffix hrest hbody)

theorem inOrder_scan (text : List Char) : InOrder 0 (scan text) :=
  (inOrder_events (Nat.le_refl _)).mono (Nat.zero_le _)

end SymbolNav.Markup
