import SymbolNav.Markup.Tree
import SymbolNav.Proofs.Markup.Places

/-!
# Scanning by offsets

The same scanner, with a byte offset as its cursor and every access checked. It takes slices of the
text, which fail off the boundaries, looks up bytes and tags by index, which fails outside of their
range, and counts its rounds, so that a loop that does not come forward fails as well. For every
text it answers, and answers the tags that `events` tells and the tree that they make. So no access
of the scanner ever fails: the cursor moves only over whole characters.
-/

namespace SymbolNav.Markup

open Text

/-! ### The scanner -/

namespace Cursor

/-- Offset of the first place from `offset` on where the needle stands, or of the end. -/
def seek? (text needle : List Char) (offset : Nat) : Option Nat := do
  let rest ← dropBytes? text offset
  match find? needle rest with
  | none => some (byteLength text)
  | some distance => some (offset + distance)

/-- Offset behind that place, or of the end. -/
def skipPast? (text needle : List Char) (offset : Nat) : Option Nat := do
  let rest ← dropBytes? text offset
  match find? needle rest with
  | none => some (byteLength text)
  | some distance => some (offset + distance + byteLength needle)

/-- The bindings in a value that starts at `start` of its text, from an offset of the value on. -/
def bindings? (value : List Char) (start : Nat) : (rounds offset : Nat) → Option (List Span)
  | 0, _ => none
  | rounds + 1, offset => do
    let rest ← dropBytes? value offset
    match find? ['\x7b'] rest with
    | none => some []
    | some distance =>
      let opened := offset + distance
      let inner ← dropBytes? value opened
      match find? ['\x7d'] inner with
      | none => some []
      | some length =>
        let closed := opened + length
        let more ← bindings? value start rounds (closed + 1)
        some (⟨start + opened + 1, start + closed⟩ :: more)

def isQuote (c : Char) : Bool :=
  c = '"' || c = '\''

/-- The value of an attribute, and the offset to go on from. -/
structure Quoted where
  span : Option Span
  raw : List Char
  regions : List Span
  next : Nat

/-- The value that starts at `start` and ends at the next quote of its kind. -/
def quotedFrom? (text : List Char) (rounds : Nat) (quote : Char) (start : Nat) : Option Quoted := do
  let stop ← seek? text [quote] start
  let raw ← slice? text ⟨start, stop⟩
  let regions ← bindings? raw start rounds 0
  some ⟨some ⟨start, stop⟩, raw, regions, min (stop + 1) (byteLength text)⟩

/-- The value behind the name of an attribute that ends at `offset`. -/
def quoted? (text : List Char) (rounds offset : Nat) : Option Quoted :=
  let equals := passBytes isAsciiBlank text offset
  if (encode text)[equals]?.any (byteIs (· = '=')) then
    let quoteAt := passBytes isAsciiBlank text (equals + 1)
    match (encode text)[quoteAt]?.filter (byteIs isQuote) with
    | none => some ⟨none, [], [], quoteAt⟩
    | some quote => quotedFrom? text rounds (Char.ofNat quote.toNat) (quoteAt + 1)
  else some ⟨none, [], [], offset⟩

/-- The attribute with its name between two offsets, its script regions, and the offset to go on
from. -/
def attribute? (text : List Char) (rounds start stop : Nat) :
    Option (MarkupAttribute × List Span × Nat) := do
  let value ← quoted? text rounds stop
  let name ← slice? text ⟨start, stop⟩
  some (⟨String.ofList name, ⟨start, stop⟩, value.span, String.ofList value.raw⟩, value.regions,
    value.next)

/-- What follows the name in a start tag. -/
structure Tail where
  attributes : List MarkupAttribute
  regions : List Span
  selfClosing : Bool
  /-- The offset behind the start tag. -/
  stop : Nat

/-- The attributes and the end of a start tag, from an offset on. -/
def tail? (text : List Char) : (rounds offset : Nat) → Option Tail
  | 0, _ => none
  | rounds + 1, offset =>
    let cursor := passBytes isAsciiBlank text offset
    if byteLength text ≤ cursor then some ⟨[], [], true, byteLength text⟩
    else do
      let rest ← dropBytes? text cursor
      let byte ← (encode text)[cursor]?
      if ['/', '>'].isPrefixOf rest then some ⟨[], [], true, cursor + 2⟩
      else if byteIs (· = '>') byte then some ⟨[], [], false, cursor + 1⟩
      else
        let stop := passBytes isAttributeChar text cursor
        if stop = cursor then tail? text rounds (cursor + 1)
        else
          let (first, regions, next) ← attribute? text rounds cursor stop
          let tail ← tail? text rounds next
          some { tail with
            attributes := first :: tail.attributes
            regions := regions ++ tail.regions }

/-- The script in a body from `start` up to its end tag at `stop`. -/
def script? (text : List Char) (start stop : Nat) : Option Span := do
  let body ← slice? text ⟨start, stop⟩
  match find? cdataStart body with
  | none => some ⟨start, stop⟩
  | some distance =>
    let inner := start + distance + byteLength cdataStart
    let innerStop ← seek? text cdataEnd inner
    some ⟨inner, innerStop⟩

/-- The script regions in the body of a start tag, and the offset to go on from. -/
def body? (text : List Char) (role : TagRole) (tail : Tail) : Option (List Span × Nat) :=
  if tail.selfClosing then some ([], tail.stop)
  else do
    let stop ← seek? text endTagStart tail.stop
    match role with
    | .script =>
      let region ← script? text tail.stop stop
      let next ← seek? text endTagStart region.stop
      some ([region], next)
    | .style => some ([], stop)
    | .component => some ([], tail.stop)

/-- The tag opened last is one of the tags. -/
def hasTop (t : Tree) : Bool :=
  t.opened.head?.all fun top => top.index < t.tags.length

/-- Add a tag below the one that is open, which has to be there. -/
def start? (t : Tree) (tag : MarkupTag) (selfClosing : Bool) : Option Tree :=
  if hasTop t then some (t.start tag selfClosing) else none

/-- Close the tag that is open, which has to be there. -/
def close? (t : Tree) (name : Span) (stop : Nat) : Option Tree :=
  if hasTop t then some (t.close name stop) else none

/-- Read the start tag at an offset into the tree, and tell the offset to go on from. -/
def startTag? (text : List Char) (rounds start : Nat) (tree : Tree) : Option (Tree × Nat) := do
  let nameStop := passBytes isTagNameChar text (start + 1)
  let qualified ← slice? text ⟨start + 1, nameStop⟩
  let name := nameOf qualified
  let tail ← tail? text rounds nameStop
  let body ← body? text (roleOf name) tail
  let tree ← start? tree
    { name
      role := roleOf name
      span := ⟨start, tail.stop⟩
      openSpan := ⟨start, tail.stop⟩
      nameSpan := ⟨start + 1, nameStop⟩
      closeNameSpan := none
      attributes := tail.attributes
      scriptRegions := tail.regions ++ body.1
      parent := none
      children := [] } tail.selfClosing
  some (tree, body.2)

/-- Read the end tag at an offset into the tree, and tell the offset to go on from. -/
def endTag? (text : List Char) (start : Nat) (tree : Tree) : Option (Tree × Nat) := do
  let nameStop := passBytes isTagNameChar text (start + 2)
  let stop ← skipPast? text ['>'] nameStop
  let tree ← close? tree ⟨start + 2, nameStop⟩ stop
  some (tree, stop)

/-- Read what starts at an offset into the tree, and tell the offset to go on from. -/
def tag? (text : List Char) (rounds start : Nat) (tree : Tree) : Option (Tree × Nat) := do
  let here ← dropBytes? text start
  match skippedEnd? here with
  | some mark => (skipPast? text mark start).map fun next => (tree, next)
  | none =>
    if endTagStart.isPrefixOf here then endTag? text start tree
    else startTag? text rounds start tree

/-- Read the tags from an offset on into the tree. -/
def tree? (text : List Char) : (rounds offset : Nat) → Tree → Option Tree
  | 0, _, _ => none
  | rounds + 1, offset, tree => do
    let rest ← dropBytes? text offset
    match find? ['<'] rest with
    | none => some tree
    | some distance =>
      let (tree, next) ← tag? text rounds (offset + distance) tree
      tree? text rounds next tree

/-- The document that a text holds. -/
def document? (rounds : Nat) (path : Path) (text : List Char) : Option MarkupDocument :=
  (tree? text rounds 0 {}).map fun tree => ⟨path, tree.tags, tree.root⟩

end Cursor

/-! ### Classes of characters -/

theorem ne_of_outside_ascii {c d : Char} (hc : 128 ≤ c.toNat) (hd : d.toNat < 128) : c ≠ d := by
  rintro rfl
  omega

theorem isAsciiClass_isAsciiBlank : IsAsciiClass isAsciiBlank := by
  apply IsAsciiClass.of_forall false
  intro c hc
  simp [isAsciiBlank, ne_of_outside_ascii hc]

theorem isAsciiClass_isTagNameChar : IsAsciiClass isTagNameChar := by
  apply IsAsciiClass.of_forall false
  intro c hc
  have halphanum : c.isAlphanum = false := by
    rw [Bool.eq_false_iff]
    intro halphanum
    exact absurd (toNat_lt_of_isAlphanum halphanum) (Nat.not_lt.mpr hc)
  simp [isTagNameChar, halphanum, ne_of_outside_ascii hc]

theorem isAsciiClass_isAttributeChar : IsAsciiClass isAttributeChar := by
  apply IsAsciiClass.of_forall true
  intro c hc
  simp [isAttributeChar, isAsciiBlank, ne_of_outside_ascii hc]

theorem isAsciiClass_isQuote : IsAsciiClass Cursor.isQuote := by
  apply IsAsciiClass.of_forall false
  intro c hc
  simp [Cursor.isQuote, ne_of_outside_ascii hc]

/-- What may not stand in the name of an attribute is a single byte. -/
theorem utf8Size_of_not_isAttributeChar {c : Char} (h : isAttributeChar c = false) :
    c.utf8Size = 1 := by
  simp only [isAttributeChar, isAsciiBlank, Bool.and_eq_false_iff, Bool.not_eq_false',
    Bool.or_eq_true, beq_iff_eq, decide_eq_false_iff_not, not_not] at h
  rcases h with ((((((rfl | rfl) | rfl) | rfl) | rfl) | rfl) | rfl) | rfl <;> rfl

/-! ### Moves of the cursor -/

variable {text rest later needle : List Char} {p : Char → Bool} {total rounds : Nat}

theorem passBytes_offsetOf (hp : IsAsciiClass p) (h : rest <:+ text) :
    passBytes p text (offsetOf (byteLength text) rest) =
      offsetOf (byteLength text) (rest.dropWhile p) := by
  obtain ⟨front, hcut⟩ := cut_offsetOf h
  have hrest : rest.takeWhile p ++ rest.dropWhile p <:+ text := by
    rwa [List.takeWhile_append_dropWhile]
  rw [hcut.passBytes_eq hp, ← offsetOf_append _ hrest, List.takeWhile_append_dropWhile]

/-- The byte at the offset of a place tells of the character there whatever a class tells of it. -/
theorem exists_byte {c : Char} (h : c :: rest <:+ text) :
    ∃ byte, (encode text)[offsetOf (byteLength text) (c :: rest)]? = some byte ∧
      ∀ {p : Char → Bool}, IsAsciiClass p → byteIs p byte = p c := by
  obtain ⟨front, hcut⟩ := cut_offsetOf h
  have hbyte : ∀ {p : Char → Bool}, IsAsciiClass p →
      (encode text)[offsetOf (byteLength text) (c :: rest)]?.map (byteIs p) = some (p c) :=
    fun hp => hcut.byteIs_getElem? hp
  cases hfound : (encode text)[offsetOf (byteLength text) (c :: rest)]? with
  | none =>
      have hnone := hbyte isAsciiClass_isAsciiBlank
      rw [hfound] at hnone
      cases hnone
  | some byte =>
      refine ⟨byte, rfl, ?_⟩
      intro p hp
      have hsome := hbyte hp
      rw [hfound] at hsome
      exact Option.some.inj hsome

theorem getElem?_encode_length (text : List Char) : (encode text)[byteLength text]? = none := by
  rw [← length_encode]
  exact List.getElem?_eq_none (Nat.le_refl _)

theorem seek?_offsetOf (hneedle : needle ≠ []) (h : rest <:+ text) :
    Cursor.seek? text needle (offsetOf (byteLength text) rest) =
      some (offsetOf (byteLength text) (seek needle rest)) := by
  have hrest := byteLength_le_of_suffix h
  have hseek := byteLength_le_of_suffix (seek_suffix needle rest)
  simp only [Cursor.seek?, dropBytes?_offsetOf h, Option.bind_eq_bind, Option.bind_some,
    find?_eq hneedle]
  split
  · rename_i hnone
    split at hnone
    · rename_i hnil
      rw [hnil, offsetOf_nil]
    · cases hnone
  · rename_i distance hsome
    split at hsome
    · cases hsome
    · cases hsome
      simp only [offsetOf, Option.some.injEq]
      omega

theorem skipPast?_offsetOf (hneedle : needle ≠ []) (h : rest <:+ text) :
    Cursor.skipPast? text needle (offsetOf (byteLength text) rest) =
      some (offsetOf (byteLength text) (skipPast needle rest)) := by
  have hrest := byteLength_le_of_suffix h
  have hseek := byteLength_le_of_suffix (seek_suffix needle rest)
  simp only [Cursor.skipPast?, dropBytes?_offsetOf h, Option.bind_eq_bind, Option.bind_some,
    find?_eq hneedle]
  split
  · rename_i hnone
    split at hnone
    · rename_i hnil
      rw [skipPast, hnil, List.drop_nil, offsetOf_nil]
    · cases hnone
  · rename_i distance hsome
    split at hsome
    · cases hsome
    · rename_i hfound
      cases hsome
      obtain ⟨more, hmore⟩ := exists_seek_eq hfound
      rw [hmore, byteLength_append] at hseek ⊢
      rw [skipPast, hmore, List.drop_left]
      simp only [offsetOf, Option.some.injEq]
      omega

/-! ### Values and attributes -/

theorem bindings?_offsetOf {value : List Char} (start : Nat) (h : rest <:+ value)
    (hrounds : rest.length < rounds) :
    Cursor.bindings? value start rounds (offsetOf (byteLength value) rest) =
      some (bindingRegions (start + offsetOf (byteLength value) rest) none rest) := by
  induction rounds generalizing rest with
  | zero => exact absurd hrounds (Nat.not_lt_zero _)
  | succ rounds ih =>
      simp only [Cursor.bindings?, dropBytes?_offsetOf h, Option.bind_eq_bind, Option.bind_some]
      by_cases hopen : '\x7b' ∈ rest
      · obtain ⟨front, back, rfl, hfront⟩ := List.eq_append_cons_of_mem hopen
        have hopened : '\x7b' :: back <:+ value := suffix_of_append front h
        have hfound := offsetOf_append front h
        rw [find?_append back hfront, bindingRegions_append hfront, Nat.add_assoc start, hfound]
        simp only [hfound, dropBytes?_offsetOf hopened, Option.bind_some]
        by_cases hclose : '\x7d' ∈ back
        · obtain ⟨inner, more, rfl, hinner⟩ := List.eq_append_cons_of_mem hclose
          have hfree : '\x7d' ∉ '\x7b' :: inner := by simp [hinner]
          have hclosed := offsetOf_append ('\x7b' :: inner) hopened
          have hmore := suffix_of_append ('\x7b' :: inner) hopened
          have hnext := offsetOf_cons (by rfl) hmore
          have hlater := ih ((List.suffix_cons _ more).trans hmore) (by simp at hrounds; omega)
          rw [← List.cons_append, find?_append more hfree, bindingRegions_some_append hinner]
          simp only [List.cons_append] at hclosed ⊢
          have hstop : start + offsetOf (byteLength value) ('\x7b' :: (inner ++ '\x7d' :: more)) +
              1 + byteLength inner = start + offsetOf (byteLength value) ('\x7d' :: more) := by
            rw [← hclosed, byteLength_cons, show Char.utf8Size '\x7b' = 1 from rfl]
            omega
          rw [hclosed, hnext, hlater, hstop, Nat.add_assoc start (offsetOf _ ('\x7d' :: more)),
            hnext]
          rfl
        · have hfree : '\x7d' ∉ '\x7b' :: back := by simp [hclose]
          rw [find?_of_not_mem hfree, bindingRegions_some_of_not_mem hclose]
      · rw [find?_of_not_mem hopen, bindingRegions_of_not_mem hopen]

/-- The value that a place behind the name of an attribute has, with offsets for places. -/
def Cursor.Quoted.ofValue (total : Nat) (value : Option Value × List Char) : Cursor.Quoted where
  span := value.1.map fun v => ⟨offsetOf total v.start, offsetOf total v.start + byteLength v.text⟩
  raw := (value.1.map (·.text)).getD []
  regions := regionsOf total value.1
  next := offsetOf total value.2

theorem isQuote_iff {c : Char} : Cursor.isQuote c ↔ c = '"' ∨ c = '\'' := by
  simp [Cursor.isQuote]

theorem utf8Size_of_isQuote {c : Char} (h : Cursor.isQuote c) : c.utf8Size = 1 := by
  rcases isQuote_iff.mp h with rfl | rfl <;> rfl

theorem bindings?_eq {value : List Char} (start : Nat) (hrounds : value.length < rounds) :
    Cursor.bindings? value start rounds 0 = some (bindingRegions start none value) := by
  have hall := bindings?_offsetOf start (List.suffix_refl value) hrounds
  rwa [offsetOf, Nat.sub_self] at hall

/-- One byte further on, but not past the end. -/
theorem min_offsetOf (h : rest <:+ text) (hhead : ∀ c, rest.head? = some c → c.utf8Size = 1) :
    min (offsetOf (byteLength text) rest + 1) (byteLength text) =
      offsetOf (byteLength text) (rest.drop 1) := by
  cases rest with
  | nil =>
      rw [offsetOf_nil, List.drop_nil, offsetOf_nil]
      omega
  | cons c rest =>
      rw [offsetOf_cons (hhead c rfl) h]
      exact Nat.min_eq_left (offsetOf_le _ _)

theorem quotedFrom?_offsetOf {quote : Char} {value : List Char} (hquote : Cursor.isQuote quote)
    (h : value <:+ text) (hrounds : value.length < rounds) :
    Cursor.quotedFrom? text rounds quote (offsetOf (byteLength text) value) =
      some (.ofValue (byteLength text) (some ⟨value, value.takeWhile (· ≠ quote)⟩,
        (value.dropWhile (· ≠ quote)).drop 1)) := by
  have hsplit : value.takeWhile (· ≠ quote) ++ value.dropWhile (· ≠ quote) = value :=
    List.takeWhile_append_dropWhile
  have hparts : value.takeWhile (· ≠ quote) ++ value.dropWhile (· ≠ quote) <:+ text := by
    rwa [hsplit]
  have hslice := slice?_spanBetween hparts
  have hstop := offsetOf_append _ hparts
  rw [hsplit] at hslice hstop
  have hlength : (value.takeWhile (· ≠ quote)).length < rounds :=
    Nat.lt_of_le_of_lt (List.takeWhile_sublist _).length_le hrounds
  have hhead : ∀ c, (value.dropWhile (· ≠ quote)).head? = some c → c.utf8Size = 1 := by
    intro c hc
    have hnot := List.head?_dropWhile_not (· ≠ quote) value
    rw [hc] at hnot
    rw [show c = quote by simpa using hnot]
    exact utf8Size_of_isQuote hquote
  have hnext := min_offsetOf (suffix_of_append _ hparts) hhead
  simp only [Cursor.quotedFrom?, seek?_offsetOf (List.cons_ne_nil quote []) h, seek_singleton,
    Option.bind_eq_bind, Option.bind_some, hnext]
  rw [spanBetween] at hslice
  simp only [hslice, bindings?_eq _ hlength, Option.bind_some]
  rw [← hstop]
  rfl

/-- What stands behind an equals sign is a value if it starts with a quote. -/
theorem quoted?_offsetOf_of_equals {more : List Char} (h : rest <:+ text)
    (hrounds : rest.length < rounds) (hrest : rest.dropWhile isAsciiBlank = '=' :: more) :
    Cursor.quoted? text rounds (offsetOf (byteLength text) rest) =
      some (.ofValue (byteLength text) (attributeValue rest)) := by
  have hequals : '=' :: more <:+ text := hrest ▸ (List.dropWhile_suffix _).trans h
  have hmore := (List.suffix_cons '=' more).trans hequals
  have hlength := length_lt_of_dropWhile_eq hrest
  obtain ⟨byte, hbyte, hclass⟩ := exists_byte hequals
  have hfound : byteIs (fun c => decide (c = '=')) byte = true :=
    hclass (isAsciiClass_eq (by decide))
  rw [Cursor.quoted?, passBytes_offsetOf isAsciiClass_isAsciiBlank h, hrest, attributeValue, hrest]
  simp only [hbyte, Option.any_some, hfound, if_true, offsetOf_cons (by rfl) hequals,
    passBytes_offsetOf isAsciiClass_isAsciiBlank hmore]
  cases hvalue : more.dropWhile isAsciiBlank with
  | nil =>
      rw [offsetOf_nil, getElem?_encode_length]
      rfl
  | cons quote value =>
      have hquoteAt : quote :: value <:+ text := hvalue ▸ (List.dropWhile_suffix _).trans hmore
      have hshorter := length_lt_of_dropWhile_eq hvalue
      obtain ⟨byte, hbyte, hclass⟩ := exists_byte hquoteAt
      rw [hbyte, Option.filter_some, hclass isAsciiClass_isQuote]
      by_cases hquote : Cursor.isQuote quote = true
      · have hascii : quote.toNat < 128 := by
          rcases isQuote_iff.mp hquote with rfl | rfl <;> decide
        have hcode : Char.ofNat byte.toNat = quote := by
          simpa [byteIs] using hclass (isAsciiClass_eq hascii)
        have hread := quotedFrom?_offsetOf hquote ((List.suffix_cons quote value).trans hquoteAt)
          (Nat.lt_trans hshorter (Nat.lt_trans hlength hrounds))
        simp only [if_pos hquote, if_pos (isQuote_iff.mp hquote), hcode,
          offsetOf_cons (utf8Size_of_isQuote hquote) hquoteAt]
        exact hread
      · have hnot : ¬ (quote = '"' ∨ quote = '\'') := fun h => hquote (isQuote_iff.mpr h)
        simp only [if_neg hquote, if_neg hnot]
        rfl

theorem quoted?_offsetOf (h : rest <:+ text) (hrounds : rest.length < rounds) :
    Cursor.quoted? text rounds (offsetOf (byteLength text) rest) =
      some (.ofValue (byteLength text) (attributeValue rest)) := by
  by_cases hmark : (rest.dropWhile isAsciiBlank).head? = some '='
  · obtain ⟨more, hmore⟩ := List.head?_eq_some_iff.mp hmark
    exact quoted?_offsetOf_of_equals h hrounds hmore
  · have hnone : (encode text)[offsetOf (byteLength text) (rest.dropWhile isAsciiBlank)]?.any
        (byteIs fun c => decide (c = '=')) = false := by
      have hequals := (List.dropWhile_suffix isAsciiBlank).trans h
      cases hrest : rest.dropWhile isAsciiBlank with
      | nil => rw [offsetOf_nil, getElem?_encode_length, Option.any_none]
      | cons c more =>
          rw [hrest] at hequals hmark
          obtain ⟨byte, hbyte, hclass⟩ := exists_byte hequals
          rw [hbyte, Option.any_some, hclass (isAsciiClass_eq (by decide))]
          simpa using hmark
    have hvalue : attributeValue rest = (none, rest) := by
      rw [attributeValue]
      split
      · rename_i more hmore
        rw [hmore] at hmark
        exact absurd rfl hmark
      · rfl
    rw [Cursor.quoted?, passBytes_offsetOf isAsciiClass_isAsciiBlank h, hvalue]
    simp only [hnone]
    rfl

/-- What follows the name in a start tag, with an offset for the place behind it. -/
def Cursor.Tail.ofTail (total : Nat) (tail : OpenTail) : Cursor.Tail :=
  ⟨tail.attributes, tail.regions, tail.selfClosing, offsetOf total tail.rest⟩

/-- The tail with one more attribute in front, which stands between two places. -/
def Cursor.Tail.cons (total : Nat) (start stop : List Char) (value : Option Value)
    (tail : Cursor.Tail) : Cursor.Tail :=
  { tail with
    attributes := attributeAt total start stop value :: tail.attributes
    regions := regionsOf total value ++ tail.regions }

theorem isPrefixOf_pair_iff {a b c : Char} {more : List Char} :
    [a, b].isPrefixOf (c :: more) ↔ c = a ∧ more.head? = some b := by
  cases more with
  | nil => simp [List.isPrefixOf]
  | cons d more =>
      rw [List.isPrefixOf_iff_prefix, List.cons_prefix_cons, List.cons_prefix_cons, List.head?_cons,
        Option.some.injEq]
      constructor
      · rintro ⟨rfl, rfl, -⟩
        exact ⟨rfl, rfl⟩
      · rintro ⟨rfl, rfl⟩
        exact ⟨rfl, rfl, List.nil_prefix⟩

theorem dropWhile_of_isAttributeChar {c : Char} (h : isAttributeChar c) (more : List Char) :
    (c :: more).dropWhile isAttributeChar = more.dropWhile isAttributeChar := by
  rw [List.dropWhile_cons, if_pos h]

theorem attribute?_offsetOf {c : Char} {more : List Char} (hcursor : c :: more <:+ text)
    (hrounds : more.length < rounds) (hc : isAttributeChar c) :
    Cursor.attribute? text rounds (offsetOf (byteLength text) (c :: more))
        (offsetOf (byteLength text) (more.dropWhile isAttributeChar)) =
      some (attributeAt (byteLength text) (c :: more) (more.dropWhile isAttributeChar)
          (attributeValue (more.dropWhile isAttributeChar)).1,
        regionsOf (byteLength text) (attributeValue (more.dropWhile isAttributeChar)).1,
        offsetOf (byteLength text) (attributeValue (more.dropWhile isAttributeChar)).2) := by
  have hslice := slice?_takeWhile isAttributeChar hcursor
  rw [dropWhile_of_isAttributeChar hc, spanBetween] at hslice
  have hstop : more.dropWhile isAttributeChar <:+ text :=
    (List.dropWhile_suffix _).trans ((List.suffix_cons c more).trans hcursor)
  have hlength : (more.dropWhile isAttributeChar).length < rounds :=
    Nat.lt_of_le_of_lt (length_dropWhile_le _ _) hrounds
  simp only [Cursor.attribute?, quoted?_offsetOf hstop hlength, hslice, Option.bind_eq_bind,
    Option.bind_some]
  rfl

/-- One round of the loop over attributes, told at places. -/
theorem tail?_succ {c : Char} {more : List Char} (h : rest <:+ text)
    (hrounds : rest.length < rounds + 1) (hrest : rest.dropWhile isAsciiBlank = c :: more) :
    Cursor.tail? text (rounds + 1) (offsetOf (byteLength text) rest) =
      if c = '/' ∧ more.head? = some '>' then
        some ⟨[], [], true, offsetOf (byteLength text) (more.drop 1)⟩
      else if c = '>' then some ⟨[], [], false, offsetOf (byteLength text) more⟩
      else if isAttributeChar c then
        (Cursor.tail? text rounds (offsetOf (byteLength text)
          (attributeValue (more.dropWhile isAttributeChar)).2)).map
            (.cons (byteLength text) (c :: more) (more.dropWhile isAttributeChar)
              (attributeValue (more.dropWhile isAttributeChar)).1)
      else Cursor.tail? text rounds (offsetOf (byteLength text) more) := by
  have hcursor : c :: more <:+ text := hrest ▸ (List.dropWhile_suffix _).trans h
  have hlength := length_lt_of_dropWhile_eq hrest
  have hinside : ¬ byteLength text ≤ offsetOf (byteLength text) (c :: more) := by
    rw [byteLength_le_offsetOf_iff hcursor]
    exact List.cons_ne_nil c more
  have hstop := passBytes_offsetOf isAsciiClass_isAttributeChar hcursor
  obtain ⟨byte, hbyte, hclass⟩ := exists_byte hcursor
  have hend : byteIs (fun c => decide (c = '>')) byte = decide (c = '>') :=
    hclass (isAsciiClass_eq (by decide))
  rw [Cursor.tail?, passBytes_offsetOf isAsciiClass_isAsciiBlank h, hrest]
  simp only [if_neg hinside, dropBytes?_offsetOf hcursor, hbyte, hend, hstop, Option.bind_eq_bind,
    Option.bind_some, isPrefixOf_pair_iff, decide_eq_true_eq]
  split
  · rename_i hself
    obtain ⟨rfl, hhead⟩ := hself
    obtain ⟨later, rfl⟩ := List.head?_eq_some_iff.mp hhead
    exact congrArg (fun stop => some (⟨[], [], true, stop⟩ : Cursor.Tail))
      (offsetOf_append ['/', '>'] hcursor)
  · split
    · rename_i hgreater
      subst hgreater
      rw [offsetOf_cons (by rfl) hcursor]
    · by_cases hc : isAttributeChar c = true
      · have hlater : more.dropWhile isAttributeChar <:+ more := List.dropWhile_suffix _
        have hmoved := offsetOf_lt_of_suffix (byteLength_le_of_suffix hcursor) hlater
        rw [if_pos hc, dropWhile_of_isAttributeChar hc, if_neg (Nat.ne_of_gt hmoved),
          attribute?_offsetOf hcursor (by omega) hc, Option.bind_some, Option.map_eq_bind]
        rfl
      · have hstays : (c :: more).dropWhile isAttributeChar = c :: more := by
          rw [List.dropWhile_cons, if_neg hc]
        have hsize := utf8Size_of_not_isAttributeChar (Bool.not_eq_true _ ▸ hc)
        rw [if_neg hc, hstays, if_pos rfl, offsetOf_cons hsize hcursor]

theorem tail?_offsetOf (h : rest <:+ text) (hrounds : rest.length < rounds) :
    Cursor.tail? text rounds (offsetOf (byteLength text) rest) =
      some (.ofTail (byteLength text) (openTail (byteLength text) rest)) := by
  obtain ⟨rounds, rfl⟩ : ∃ n, rounds = n + 1 := ⟨rounds - 1, by omega⟩
  fun_induction openTail (byteLength text) rest generalizing rounds with
  | case1 rest hrest =>
      rw [Cursor.tail?, passBytes_offsetOf isAsciiClass_isAsciiBlank h, hrest]
      simp only [offsetOf_nil, Nat.le_refl, if_true]
      rfl
  | case2 rest c more hrest hself =>
      rw [tail?_succ h hrounds hrest, if_pos hself]
      rfl
  | case3 rest more hrest hself =>
      rw [tail?_succ h hrounds hrest, if_neg hself, if_pos rfl]
      rfl
  | case4 rest c more hrest hself hend hc stop value tail ih =>
      have hlength := length_lt_of_dropWhile_eq hrest
      have hstop : stop.length ≤ more.length := length_dropWhile_le isAttributeChar more
      have hvalue : value.2.length ≤ stop.length := length_attributeValue_le stop
      have hnext : value.2 <:+ text := (attributeValue_suffix stop).trans
        ((List.dropWhile_suffix _).trans ((suffix_of_dropWhile_eq hrest).trans h))
      obtain ⟨rounds, rfl⟩ : ∃ n, rounds = n + 1 := ⟨rounds - 1, by omega⟩
      rw [tail?_succ h hrounds hrest, if_neg hself, if_neg hend, if_pos hc,
        ih hnext rounds (by omega)]
      rfl
  | case5 rest c more hrest hself hend hc ih =>
      have hlength := length_lt_of_dropWhile_eq hrest
      obtain ⟨rounds, rfl⟩ : ∃ n, rounds = n + 1 := ⟨rounds - 1, by omega⟩
      rw [tail?_succ h hrounds hrest, if_neg hself, if_neg hend, if_neg hc]
      exact ih ((suffix_of_dropWhile_eq hrest).trans h) rounds (by omega)

end SymbolNav.Markup
