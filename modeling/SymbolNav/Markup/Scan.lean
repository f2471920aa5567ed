import SymbolNav.Snapshot.Markup
import SymbolNav.Text.Blank

/-!
# Scanning markup

A text is read into the start tags and end tags that it holds, from left to right. Comments,
declarations and processing instructions are passed over, and so are the bodies of script and style
tags. A place in the text is given by the characters from there to the end; its offset is what the
whole text has in front of them.

Any text can be scanned. A start tag that does not end before the text does counts as closed.
-/

namespace SymbolNav.Markup

/-- A tag of the text, in the order of the text. -/
inductive Event where
  /-- A start tag, not yet linked to other tags. -/
  | opened (tag : MarkupTag) (selfClosing : Bool)
  /-- An end tag: its name and where it ends. -/
  | closed (name : Span) (stop : Nat)
deriving DecidableEq, Repr

/-- Everything from the first place where the needle stands, nothing if there is none. -/
def seek (needle : List Char) : List Char → List Char
  | [] => []
  | c :: rest => if needle.isPrefixOf (c :: rest) then c :: rest else seek needle rest

/-- Everything behind the first place where the needle stands, nothing if there is none. -/
def skipPast (needle rest : List Char) : List Char :=
  (seek needle rest).drop needle.length

theorem length_seek_le (needle rest : List Char) : (seek needle rest).length ≤ rest.length := by
  induction rest with
  | nil => simp [seek]
  | cons c rest ih =>
    rw [seek]
    split
    · exact Nat.le_refl _
    · simp only [List.length_cons]
      omega

theorem length_skipPast_le (needle rest : List Char) :
    (skipPast needle rest).length ≤ rest.length := by
  have := length_seek_le needle rest
  simp only [skipPast, List.length_drop]
  omega

theorem length_skipPast_lt {needle rest : List Char} (hn : needle ≠ []) (hr : rest ≠ []) :
    (skipPast needle rest).length < rest.length := by
  have := length_seek_le needle rest
  have := List.length_pos_iff.2 hn
  have := List.length_pos_iff.2 hr
  simp only [skipPast, List.length_drop]
  omega

theorem length_dropWhile_le (p : Char → Bool) (rest : List Char) :
    (rest.dropWhile p).length ≤ rest.length :=
  (List.dropWhile_sublist p).length_le

theorem length_lt_of_dropWhile_eq {p : Char → Bool} {rest more : List Char} {c : Char}
    (h : rest.dropWhile p = c :: more) : more.length < rest.length := by
  have := length_dropWhile_le p rest
  rw [h, List.length_cons] at this
  omega

/-- The characters of tag names. -/
def isTagNameChar (c : Char) : Bool :=
  c.isAlphanum || c = '_' || c = ':' || c = '.' || c = '-'

/-- The characters of attribute names. -/
def isAttributeChar (c : Char) : Bool :=
  !Text.isAsciiBlank c && c ≠ '=' && c ≠ '/' && c ≠ '>'

/-- Offset of the place in front of `rest` in a text of `total` bytes. -/
def offsetOf (total : Nat) (rest : List Char) : Nat :=
  total - Text.byteLength rest

/-- The span between two places. -/
def spanBetween (total : Nat) (start stop : List Char) : Span :=
  ⟨offsetOf total start, offsetOf total stop⟩

/-- The bindings in an attribute value: what stands between a curly bracket and the next one that
closes it. `start` is the place behind an open bracket. -/
def bindingRegions : (offset : Nat) → (start : Option Nat) → List Char → List Span
  | _, _, [] => []
  | offset, none, c :: value =>
    bindingRegions (offset + c.utf8Size) (if c = '\x7b' then some (offset + c.utf8Size) else none)
      value
  | offset, some start, c :: value =>
    if c = '\x7d' then ⟨start, offset⟩ :: bindingRegions (offset + c.utf8Size) none value
    else bindingRegions (offset + c.utf8Size) (some start) value

/-- A quoted value: where it starts and its characters. -/
structure Value where
  start : List Char
  text : List Char

/-- The value behind an attribute's name, and the place to go on from. -/
def attributeValue (rest : List Char) : Option Value × List Char :=
  match rest.dropWhile Text.isAsciiBlank with
  | '=' :: more =>
    match more.dropWhile Text.isAsciiBlank with
    | [] => (none, [])
    | quote :: value =>
      if quote = '"' ∨ quote = '\'' then
        (some ⟨value, value.takeWhile (· ≠ quote)⟩, (value.dropWhile (· ≠ quote)).drop 1)
      else (none, quote :: value)
  | _ => (none, rest)

theorem length_attributeValue_le (rest : List Char) :
    (attributeValue rest).2.length ≤ rest.length := by
  have h := length_dropWhile_le Text.isAsciiBlank rest
  unfold attributeValue
  split
  · rename_i more heq
    rw [heq] at h
    have h' := length_dropWhile_le Text.isAsciiBlank more
    split
    · simp
    · rename_i quote value heq'
      rw [heq'] at h'
      have := length_dropWhile_le (fun c => decide (c ≠ quote)) value
      simp only [List.length_cons] at h h'
      split
      · simp only [List.length_drop]
        omega
      · simp only [List.length_cons]
        omega
  · exact Nat.le_refl _

/-- What follows the name in a start tag. -/
structure OpenTail where
  attributes : List MarkupAttribute
  regions : List Span
  selfClosing : Bool
  /-- The place behind the start tag. -/
  rest : List Char

/-- An attribute between two places, with its value. -/
def attributeAt (total : Nat) (start stop : List Char) (value : Option Value) :
    MarkupAttribute where
  name := String.ofList (start.takeWhile isAttributeChar)
  nameSpan := spanBetween total start stop
  valueSpan := value.map fun v =>
    ⟨offsetOf total v.start, offsetOf total v.start + Text.byteLength v.text⟩
  rawValue := String.ofList ((value.map (·.text)).getD [])

/-- The script regions of a value. -/
def regionsOf (total : Nat) : Option Value → List Span
  | none => []
  | some v => bindingRegions (offsetOf total v.start) none v.text

/-- The attributes and the end of a start tag. -/
def openTail (total : Nat) (rest : List Char) : OpenTail :=
  match _h : rest.dropWhile Text.isAsciiBlank with
  | [] => ⟨[], [], true, []⟩
  | c :: more =>
    if c = '/' ∧ more.head? = some '>' then ⟨[], [], true, more.drop 1⟩
    else if c = '>' then ⟨[], [], false, more⟩
    else if isAttributeChar c then
      let stop := more.dropWhile isAttributeChar
      let value := attributeValue stop
      let tail := openTail total value.2
      { tail with
        attributes := attributeAt total (c :: more) stop value.1 :: tail.attributes
        regions := regionsOf total value.1 ++ tail.regions }
    else openTail total more
termination_by rest.length
decreasing_by
  · have h1 := length_lt_of_dropWhile_eq _h
    have h2 := length_dropWhile_le isAttributeChar more
    have h3 := length_attributeValue_le (more.dropWhile isAttributeChar)
    omega
  · exact length_lt_of_dropWhile_eq _h

theorem length_openTail_le (total : Nat) (rest : List Char) :
    (openTail total rest).rest.length ≤ rest.length := by
  fun_induction openTail total rest with
  | case1 => simp
  | case2 rest c more h hc =>
    have h1 := length_lt_of_dropWhile_eq h
    simp only [List.length_drop]
    omega
  | case3 rest more h _ => exact Nat.le_of_lt (length_lt_of_dropWhile_eq h)
  | case4 rest c more h hc hc' ha stop value tail ih =>
    have h1 := length_lt_of_dropWhile_eq h
    have h2 := length_dropWhile_le isAttributeChar more
    have h3 := length_attributeValue_le (more.dropWhile isAttributeChar)
    change (openTail total (attributeValue (more.dropWhile isAttributeChar)).2).rest.length ≤ _
    change _ ≤ (attributeValue (more.dropWhile isAttributeChar)).2.length at ih
    exact Nat.le_trans ih (by omega)
  | case5 rest c more h hc hc' ha ih =>
    exact Nat.le_trans ih (Nat.le_of_lt (length_lt_of_dropWhile_eq h))

/-- A name with its namespace, which ends at the first colon. -/
def nameOf (qualified : List Char) : XmlName :=
  match qualified.dropWhile (· ≠ ':') with
  | [] => ⟨none, String.ofList qualified⟩
  | _ :: localPart =>
    ⟨some (String.ofList (qualified.takeWhile (· ≠ ':'))), String.ofList localPart⟩

def roleOf (name : XmlName) : TagRole :=
  if name.localPart = "Script" then .script
  else if name.localPart = "Style" then .style
  else .component

def cdataStart : List Char := "<![CDATA[".toList

def cdataEnd : List Char := "]]>".toList

def endTagStart : List Char := "</".toList

/-- The script in the body of a script tag: what a character data section in front of the first end
tag holds, else all up to that end tag. -/
def scriptBody (rest : List Char) : List Char × List Char :=
  let stop := seek endTagStart rest
  let data := seek cdataStart rest
  if stop.length < data.length then
    let inner := data.drop cdataStart.length
    (inner, seek cdataEnd inner)
  else (rest, stop)

/-- The script regions in the body of a start tag, and the place to go on from. -/
def tagBody (total : Nat) (role : TagRole) (tail : OpenTail) : List Span × List Char :=
  if tail.selfClosing then ([], tail.rest)
  else match role with
    | .script =>
      let (start, stop) := scriptBody tail.rest
      ([spanBetween total start stop], seek endTagStart stop)
    | .style => ([], seek endTagStart tail.rest)
    | .component => ([], tail.rest)

theorem length_scriptBody_le (rest : List Char) : (scriptBody rest).2.length ≤ rest.length := by
  have h1 := length_seek_le endTagStart rest
  have h2 := length_seek_le cdataStart rest
  simp only [scriptBody]
  split
  · have h3 := length_seek_le cdataEnd ((seek cdataStart rest).drop cdataStart.length)
    simp only [List.length_drop] at h3 ⊢
    omega
  · exact h1

theorem length_tagBody_le (total : Nat) (role : TagRole) (tail : OpenTail) :
    (tagBody total role tail).2.length ≤ tail.rest.length := by
  have h1 := length_seek_le endTagStart tail.rest
  have h2 := length_scriptBody_le tail.rest
  have h3 := length_seek_le endTagStart (scriptBody tail.rest).2
  unfold tagBody
  split
  · exact Nat.le_refl _
  · split <;> simp only <;> omega

/-- The tag of a start tag at `here`, whose name starts at `name`. -/
def tagOf (total : Nat) (here name : List Char) (tail : OpenTail) : MarkupTag :=
  let xmlName := nameOf (name.takeWhile isTagNameChar)
  let role := roleOf xmlName
  let span := spanBetween total here tail.rest
  { name := xmlName
    role
    span
    openSpan := span
    nameSpan := spanBetween total name (name.dropWhile isTagNameChar)
    closeNameSpan := none
    attributes := tail.attributes
    scriptRegions := tail.regions ++ (tagBody total role tail).1
    parent := none
    children := [] }

/-- What is passed over, by how it starts and how it ends. -/
def skipped : List (List Char × List Char) :=
  [("<!--".toList, "-->".toList), (cdataStart, cdataEnd), ("<?".toList, ">".toList),
    ("<!".toList, ">".toList)]

/-- The end of what is passed over at this place. -/
def skippedEnd? (here : List Char) : Option (List Char) :=
  (skipped.find? fun s => s.1.isPrefixOf here).map (·.2)

theorem ne_nil_of_skippedEnd? {here stop : List Char} (h : skippedEnd? here = some stop) :
    stop ≠ [] := by
  obtain ⟨s, hs, rfl⟩ := Option.map_eq_some_iff.1 h
  have := List.mem_of_find?_eq_some hs
  simp only [skipped, List.mem_cons, List.not_mem_nil, or_false] at this
  rcases this with rfl | rfl | rfl | rfl <;> decide

/-- The start and end tags from a place on. -/
def events (total : Nat) (rest : List Char) : List Event :=
  match _h : rest.dropWhile (· ≠ '<') with
  | [] => []
  | c :: body =>
    match _hs : skippedEnd? (c :: body) with
    | some stop => events total (skipPast stop (c :: body))
    | none =>
      if body.head? = some '/' then
        let name := body.drop 1
        let nameStop := name.dropWhile isTagNameChar
        let stop := skipPast ['>'] nameStop
        .closed (spanBetween total name nameStop) (offsetOf total stop) :: events total stop
      else
        let tail := openTail total (body.dropWhile isTagNameChar)
        let tag := tagOf total (c :: body) body tail
        .opened tag tail.selfClosing :: events total (tagBody total tag.role tail).2
termination_by rest.length
decreasing_by
  · have h1 := length_dropWhile_le (fun c => decide (c ≠ '<')) rest
    rw [_h] at h1
    exact Nat.lt_of_lt_of_le
      (length_skipPast_lt (ne_nil_of_skippedEnd? _hs) (List.cons_ne_nil c body)) h1
  · have h1 := length_lt_of_dropWhile_eq _h
    have h2 := length_dropWhile_le isTagNameChar (body.drop 1)
    have h3 := length_skipPast_le ['>'] ((body.drop 1).dropWhile isTagNameChar)
    simp only [List.length_drop] at h2
    omega
  · have h1 := length_lt_of_dropWhile_eq _h
    have h2 := length_dropWhile_le isTagNameChar body
    have h3 := length_openTail_le total (body.dropWhile isTagNameChar)
    have h4 := length_tagBody_le total
      (tagOf total (c :: body) body (openTail total (body.dropWhile isTagNameChar))).role
      (openTail total (body.dropWhile isTagNameChar))
    omega

/-- The start and end tags of a text. -/
def scan (text : List Char) : List Event :=
  events (Text.byteLength text) text

end SymbolNav.Markup
