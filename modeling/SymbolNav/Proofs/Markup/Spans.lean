import SymbolNav.Proofs.Markup.Nesting
import SymbolNav.Proofs.Markup.Places

/-!
# The spans of a tag are those of its parts

`Faithful` says what the spans of a tag have to do with the text: they lie in it between characters,
the names and values stand in the start tag one behind the other, the text has there what the tag
says, and a region that holds script is what stands between two brackets in a value, or the body of
a script tag. The attributes of a start tag are read one after the other, and each of them is so
placed; a tag that is closed later keeps its parts, as its end tag stands behind all of them.
-/

namespace SymbolNav

/-- The spans of an attribute, in the order of the text. -/
def MarkupAttribute.spans (a : MarkupAttribute) : List Span :=
  a.nameSpan :: a.valueSpan.toList

/-- The spans of the names and values in a start tag, in the order of the text. -/
def MarkupTag.partSpans (t : MarkupTag) : List Span :=
  t.nameSpan :: t.attributes.flatMap (·.spans)

/-- All spans of a tag. -/
def MarkupTag.spans (t : MarkupTag) : List Span :=
  t.span :: t.openSpan :: t.closeNameSpan.toList ++ (t.partSpans ++ t.scriptRegions)

namespace Markup

open Text

/-- The text has at the spans of the attribute what the attribute says. -/
structure Tells (text : List Char) (a : MarkupAttribute) : Prop where
  name : slice? text a.nameSpan = some a.name.toList
  value : ∀ s, a.valueSpan = some s → slice? text s = some a.rawValue.toList

/-- The region is what stands between two brackets in the value of one of the attributes. -/
def IsBinding (text : List Char) (attributes : List MarkupAttribute) (region : Span) : Prop :=
  ∃ a ∈ attributes, ∃ value, a.valueSpan = some value ∧ value.start < region.start ∧
    region.stop < value.stop ∧ charBefore? text region.start = some '\x7b' ∧
    charAt? text region.stop = some '\x7d'

/-- What the spans of a tag have to do with the text. -/
structure Faithful (text : List Char) (tag : MarkupTag) : Prop where
  liesIn : ∀ s ∈ tag.spans, LiesIn text s
  starts : tag.span.start = tag.openSpan.start
  inside : ∀ s ∈ tag.partSpans, tag.openSpan.encloses s
  /-- The names and values are disjoint and stand in order. -/
  inOrder : tag.partSpans.Pairwise fun s t => s.stop ≤ t.start
  /-- Offsets are counted up to a limit, which no text that can be held comes to. -/
  localName : byteLength text < offsetLimit →
    slice? text tag.localNameSpan = some tag.name.localPart.toList
  tells : ∀ a ∈ tag.attributes, Tells text a
  /-- The script regions are bindings, and in a script tag the script behind the start tag. -/
  regions : ∃ bindings body, tag.scriptRegions = bindings ++ body ∧
    (∀ region ∈ bindings, IsBinding text tag.attributes region) ∧
    (body = [] ∨ ∃ region, body = [region] ∧ tag.role = .script ∧
      tag.openSpan.stop ≤ region.start)
  /-- Between the start tag and the name in the end tag is room for what starts the end tag. -/
  close : ∀ close, tag.closeNameSpan = some close → tag.openSpan.stop + 2 ≤ close.start

variable {text rest later part : List Char} {s : Span} {a : MarkupAttribute}

/-! ### What the text has at a span -/

theorem charBefore?_of_cut {offset : Nat} {front : List Char} {c : Char}
    (h : Cut text offset (front ++ [c]) rest) : charBefore? text offset = some c := by
  obtain ⟨rfl, rfl⟩ := h
  induction front with
  | nil => simp [charBefore?]
  | cons d front ih =>
      have hpos := byteLength_pos (show front ++ [c] ≠ [] by simp)
      rw [List.cons_append, List.cons_append, charBefore?, byteLength_cons, if_neg (by omega),
        if_pos (by omega), Nat.add_sub_cancel_left, ih]

/-- The character in front of a place. -/
theorem charBefore?_offsetOf {c : Char} (h : c :: rest <:+ text) :
    charBefore? text (offsetOf (byteLength text) rest) = some c := by
  obtain ⟨front, hfront⟩ := h
  obtain ⟨front', hcut⟩ := cut_offsetOf ((List.suffix_cons c rest).trans ⟨front, hfront⟩)
  have hsame : front' = front ++ [c] := by
    rw [← List.append_left_inj rest, ← hcut.text_eq, ← hfront, List.append_assoc]
    rfl
  rw [hsame] at hcut
  exact charBefore?_of_cut hcut

theorem charAt?_offsetOf {c : Char} (h : c :: rest <:+ text) :
    charAt? text (offsetOf (byteLength text) (c :: rest)) = some c := by
  rw [charAt?, dropBytes?_offsetOf h]
  rfl

/-! ### Bindings in a value -/

/-- Every region stands between two brackets of the value. -/
theorem exists_of_mem_bindingRegions {value : List Char} {offset : Nat} {region : Span}
    (h : region ∈ bindingRegions offset none value) :
    ∃ front inner back, value = front ++ '\x7b' :: (inner ++ '\x7d' :: back) ∧
      region.start = offset + byteLength front + 1 ∧
      region.stop = region.start + byteLength inner := by
  induction hlength : value.length using Nat.strong_induction_on generalizing value offset with
  | _ length ih =>
      by_cases hopen : '\x7b' ∈ value
      · obtain ⟨front, back, rfl, hfront⟩ := List.eq_append_cons_of_mem hopen
        rw [bindingRegions_append hfront] at h
        by_cases hclose : '\x7d' ∈ back
        · obtain ⟨inner, more, rfl, hinner⟩ := List.eq_append_cons_of_mem hclose
          rw [bindingRegions_some_append hinner] at h
          cases List.mem_cons.mp h with
          | inl hfirst =>
              rw [hfirst]
              exact ⟨front, inner, more, rfl, rfl, rfl⟩
          | inr hlater =>
              have hshorter : more.length < length := by
                rw [← hlength]
                simp only [List.length_append, List.length_cons]
                omega
              obtain ⟨front', inner', back', rfl, hstart, hstop⟩ := ih _ hshorter hlater rfl
              refine ⟨front ++ '\x7b' :: (inner ++ '\x7d' :: front'), inner', back', by simp, ?_,
                hstop⟩
              rw [hstart]
              simp only [byteLength_append, byteLength_cons, show Char.utf8Size '\x7b' = 1 from rfl,
                show Char.utf8Size '\x7d' = 1 from rfl]
              omega
        · rw [bindingRegions_some_of_not_mem hclose] at h
          exact absurd h List.not_mem_nil
      · rw [bindingRegions_of_not_mem hopen] at h
        exact absurd h List.not_mem_nil

/-- A region of a value that stands in the text lies in the value, between its brackets. -/
theorem binding_of_mem {value : List Char} {region : Span} (h : value ++ later <:+ text)
    (hmem : region ∈ bindingRegions (offsetOf (byteLength text) (value ++ later)) none value) :
    LiesIn text region ∧ offsetOf (byteLength text) (value ++ later) < region.start ∧
      region.stop < offsetOf (byteLength text) later ∧
      charBefore? text region.start = some '\x7b' ∧ charAt? text region.stop = some '\x7d' := by
  obtain ⟨front, inner, back, rfl, hstart, hstop⟩ := exists_of_mem_bindingRegions hmem
  have hopened : '\x7b' :: (inner ++ '\x7d' :: (back ++ later)) <:+ text := by
    refine suffix_of_append front ?_
    simpa using h
  have hinner : inner ++ '\x7d' :: (back ++ later) <:+ text :=
    (List.suffix_cons _ _).trans hopened
  have hclosed : '\x7d' :: (back ++ later) <:+ text := suffix_of_append inner hinner
  have hback : back ++ later <:+ text := (List.suffix_cons _ _).trans hclosed
  have hfront : offsetOf (byteLength text) (front ++ '\x7b' :: (inner ++ '\x7d' :: back) ++ later) +
      byteLength front =
        offsetOf (byteLength text) ('\x7b' :: (inner ++ '\x7d' :: (back ++ later))) := by
    have hparts : front ++ '\x7b' :: (inner ++ '\x7d' :: (back ++ later)) <:+ text := by
      simpa using h
    simpa using offsetOf_append front hparts
  have hbracket := offsetOf_cons (by rfl) hopened
  have hlength := offsetOf_append inner hinner
  have hlast := offsetOf_cons (by rfl) hclosed
  have hend := offsetOf_append back hback
  have hstart' : region.start =
      offsetOf (byteLength text) (inner ++ '\x7d' :: (back ++ later)) := by omega
  have hstop' : region.stop = offsetOf (byteLength text) ('\x7d' :: (back ++ later)) := by omega
  have hregion : region = spanBetween (byteLength text) (inner ++ '\x7d' :: (back ++ later))
      ('\x7d' :: (back ++ later)) := by
    rw [spanBetween, ← hstart', ← hstop']
  refine ⟨?_, by omega, by omega, ?_, ?_⟩
  · rw [hregion]
    exact liesIn_spanBetween hinner (List.suffix_append inner _)
  · rw [hstart']
    exact charBefore?_offsetOf hopened
  · rw [hstop']
    exact charAt?_offsetOf hclosed

/-! ### Attributes -/

/-- What holds of the attributes read between two offsets, and of the bindings in their values. -/
structure AttributesFaithful (text : List Char) (position stop : Nat)
    (attributes : List MarkupAttribute) (bindings : List Span) : Prop where
  upright : position ≤ stop
  liesIn : ∀ s ∈ attributes.flatMap (·.spans) ++ bindings, LiesIn text s
  between : ∀ s ∈ attributes.flatMap (·.spans), position ≤ s.start ∧ s.stop ≤ stop
  inOrder : (attributes.flatMap (·.spans)).Pairwise fun s t => s.stop ≤ t.start
  tells : ∀ a ∈ attributes, Tells text a
  isBinding : ∀ region ∈ bindings, IsBinding text attributes region

namespace AttributesFaithful

variable {position middle stop : Nat} {attributes more : List MarkupAttribute}
  {bindings laterBindings : List Span}

theorem nil (h : position ≤ stop) : AttributesFaithful text position stop [] [] where
  upright := h
  liesIn s hs := by cases hs
  between s hs := by cases hs
  inOrder := .nil
  tells a ha := by cases ha
  isBinding region hregion := by cases hregion

/-- Reading may start earlier. -/
theorem mono {before : Nat} (h : AttributesFaithful text position stop attributes bindings)
    (hbefore : before ≤ position) : AttributesFaithful text before stop attributes bindings :=
  { h with
    upright := Nat.le_trans hbefore h.upright
    between := fun s hs => ⟨Nat.le_trans hbefore (h.between s hs).1, (h.between s hs).2⟩ }

/-- Attributes read one behind the other. -/
theorem append (h : AttributesFaithful text position middle attributes bindings)
    (hmore : AttributesFaithful text middle stop more laterBindings) :
    AttributesFaithful text position stop (attributes ++ more) (bindings ++ laterBindings) where
  upright := Nat.le_trans h.upright hmore.upright
  liesIn s hs := by
    simp only [List.flatMap_append, List.mem_append] at hs
    have hfirst := h.liesIn s
    have hsecond := hmore.liesIn s
    simp only [List.mem_append] at hfirst hsecond
    tauto
  between s hs := by
    rw [List.flatMap_append] at hs
    cases List.mem_append.mp hs with
    | inl hfirst =>
        have hbetween := h.between s hfirst
        exact ⟨hbetween.1, Nat.le_trans hbetween.2 hmore.upright⟩
    | inr hsecond =>
        have hbetween := hmore.between s hsecond
        exact ⟨Nat.le_trans h.upright hbetween.1, hbetween.2⟩
  inOrder := by
    rw [List.flatMap_append]
    refine List.pairwise_append.mpr ⟨h.inOrder, hmore.inOrder, ?_⟩
    intro s hs t ht
    exact Nat.le_trans (h.between s hs).2 (hmore.between t ht).1
  tells a ha := by
    cases List.mem_append.mp ha with
    | inl hfirst => exact h.tells a hfirst
    | inr hsecond => exact hmore.tells a hsecond
  isBinding region hregion := by
    cases List.mem_append.mp hregion with
    | inl hfirst =>
        obtain ⟨a, ha, hvalue⟩ := h.isBinding region hfirst
        exact ⟨a, List.mem_append_left _ ha, hvalue⟩
    | inr hsecond =>
        obtain ⟨a, ha, hvalue⟩ := hmore.isBinding region hsecond
        exact ⟨a, List.mem_append_right _ ha, hvalue⟩

end AttributesFaithful

/-- A value stands behind the name, and reading goes on behind the value. -/
theorem exists_of_attributeValue {v : Value} (h : (attributeValue rest).1 = some v) :
    ∃ later, v.start = v.text ++ later ∧ v.start <:+ rest ∧ (attributeValue rest).2 <:+ later := by
  unfold attributeValue at h ⊢
  split at h
  · rename_i more hequals
    split at h
    · cases h
    · rename_i quote value hquote
      split at h
      · rename_i hkind
        cases h
        refine ⟨value.dropWhile (· ≠ quote), List.takeWhile_append_dropWhile.symm, ?_, ?_⟩
        · exact (suffix_of_dropWhile_eq hquote).trans (suffix_of_dropWhile_eq hequals)
        · simp only [if_pos hkind]
          exact List.drop_suffix _ _
      · cases h
  · cases h

section Attribute

variable {start stop next : List Char}

theorem slice?_name (hstart : start <:+ text) (hstop : start.dropWhile isAttributeChar = stop) :
    slice? text (spanBetween (byteLength text) start stop) =
      some (String.ofList (start.takeWhile isAttributeChar)).toList := by
  rw [String.toList_ofList, ← hstop]
  exact slice?_takeWhile isAttributeChar hstart

theorem attributesFaithful_of_none (hstart : start <:+ text)
    (hstop : start.dropWhile isAttributeChar = stop) (hnext : next <:+ stop) :
    AttributesFaithful text (offsetOf (byteLength text) start) (offsetOf (byteLength text) next)
      [attributeAt (byteLength text) start stop none] [] := by
  have hname : stop <:+ start := hstop ▸ List.dropWhile_suffix _
  have hspans : [attributeAt (byteLength text) start stop none].flatMap (·.spans) =
      [spanBetween (byteLength text) start stop] := rfl
  refine ⟨offsetOf_le_of_suffix (hnext.trans hname), ?_, ?_, ?_, ?_, fun _ h => by cases h⟩
  · rw [hspans, List.append_nil, List.forall_mem_singleton]
    exact liesIn_spanBetween hstart hname
  · rw [hspans, List.forall_mem_singleton]
    exact ⟨Nat.le_refl _, offsetOf_le_of_suffix hnext⟩
  · exact List.pairwise_singleton _ _
  · rw [List.forall_mem_singleton]
    exact ⟨slice?_name hstart hstop, fun _ h => by cases h⟩

theorem valueSpan_attributeAt {v : Value} (hinText : v.start <:+ text)
    (hlater : v.start = v.text ++ later) :
    (attributeAt (byteLength text) start stop (some v)).valueSpan =
      some (spanBetween (byteLength text) v.start later) := by
  have hend : offsetOf (byteLength text) v.start + byteLength v.text =
      offsetOf (byteLength text) later := by
    rw [hlater] at hinText ⊢
    exact offsetOf_append v.text hinText
  simp only [attributeAt, Option.map_some, hend, spanBetween]

theorem isBinding_of_mem_regionsOf (start stop : List Char) {v : Value} {region : Span}
    (hinText : v.start <:+ text) (hlater : v.start = v.text ++ later)
    (hregion : region ∈ regionsOf (byteLength text) (some v)) :
    LiesIn text region ∧
      IsBinding text [attributeAt (byteLength text) start stop (some v)] region := by
  rw [regionsOf, hlater] at hregion
  obtain ⟨hlies, hopened, hclosed, hbracket, hbracket'⟩ :=
    binding_of_mem (hlater ▸ hinText) hregion
  rw [← hlater] at hopened
  exact ⟨hlies, _, List.mem_singleton_self _, _, valueSpan_attributeAt hinText hlater, hopened,
    hclosed, hbracket, hbracket'⟩

theorem attributesFaithful_of_some {v : Value} (hstart : start <:+ text)
    (hstop : start.dropWhile isAttributeChar = stop) (hvalue : v.start <:+ stop)
    (hlater : v.start = v.text ++ later) (hnext : next <:+ later) :
    AttributesFaithful text (offsetOf (byteLength text) start) (offsetOf (byteLength text) next)
      [attributeAt (byteLength text) start stop (some v)]
      (regionsOf (byteLength text) (some v)) := by
  have hname : stop <:+ start := hstop ▸ List.dropWhile_suffix _
  have hafter : later <:+ v.start := hlater ▸ List.suffix_append _ _
  have hinText : v.start <:+ text := (hvalue.trans hname).trans hstart
  have hbehind : next <:+ start := (hnext.trans hafter).trans (hvalue.trans hname)
  have hspans : [attributeAt (byteLength text) start stop (some v)].flatMap (·.spans) =
      [spanBetween (byteLength text) start stop, spanBetween (byteLength text) v.start later] := by
    simp only [List.flatMap_singleton, MarkupAttribute.spans, valueSpan_attributeAt hinText hlater]
    rfl
  refine ⟨offsetOf_le_of_suffix hbehind, ?_, ?_, ?_, ?_, ?_⟩
  · rw [hspans, List.forall_mem_append, List.forall_mem_cons, List.forall_mem_singleton]
    exact ⟨⟨liesIn_spanBetween hstart hname, liesIn_spanBetween hinText hafter⟩,
      fun region hregion => (isBinding_of_mem_regionsOf start stop hinText hlater hregion).1⟩
  · rw [hspans, List.forall_mem_cons, List.forall_mem_singleton]
    exact ⟨⟨Nat.le_refl _, offsetOf_le_of_suffix (hnext.trans (hafter.trans hvalue))⟩,
      offsetOf_le_of_suffix (hvalue.trans hname), offsetOf_le_of_suffix hnext⟩
  · rw [hspans, List.pairwise_pair]
    exact offsetOf_le_of_suffix hvalue
  · rw [List.forall_mem_singleton]
    refine ⟨slice?_name hstart hstop, ?_⟩
    intro s hs
    rw [valueSpan_attributeAt hinText hlater] at hs
    cases hs
    simp only [attributeAt, Option.map_some, Option.getD_some, String.toList_ofList]
    rw [hlater] at hinText ⊢
    exact slice?_spanBetween hinText
  · intro region hregion
    exact (isBinding_of_mem_regionsOf start stop hinText hlater hregion).2

/-- The attribute read at a place, and the bindings in its value. -/
theorem attributesFaithful_attributeAt (hstart : start <:+ text)
    (hstop : start.dropWhile isAttributeChar = stop) :
    AttributesFaithful text (offsetOf (byteLength text) start)
      (offsetOf (byteLength text) (attributeValue stop).2)
      [attributeAt (byteLength text) start stop (attributeValue stop).1]
      (regionsOf (byteLength text) (attributeValue stop).1) := by
  cases hvalue : (attributeValue stop).1 with
  | none => exact attributesFaithful_of_none hstart hstop (attributeValue_suffix stop)
  | some v =>
      obtain ⟨later, hlater, hbehind, hnext⟩ := exists_of_attributeValue hvalue
      exact attributesFaithful_of_some hstart hstop hbehind hlater hnext

end Attribute

/-- Everything between the name of a tag and the end of its start tag is read so. -/
theorem attributesFaithful_openTail (h : rest <:+ text) :
    AttributesFaithful text (offsetOf (byteLength text) rest)
      (offsetOf (byteLength text) (openTail (byteLength text) rest).rest)
      (openTail (byteLength text) rest).attributes (openTail (byteLength text) rest).regions := by
  fun_induction openTail (byteLength text) rest with
  | case1 rest hend => exact .nil (offsetOf_le_of_suffix List.nil_suffix)
  | case2 rest c more hhere hc =>
      have hmore : more.drop 1 <:+ rest :=
        (List.drop_suffix _ _).trans (suffix_of_dropWhile_eq hhere)
      exact .nil (offsetOf_le_of_suffix hmore)
  | case3 rest more hhere => exact .nil (offsetOf_le_of_suffix (suffix_of_dropWhile_eq hhere))
  | case4 rest c more hhere _ _ hc stop value tail ih =>
      have hcursor : c :: more <:+ rest := hhere ▸ List.dropWhile_suffix _
      have hstop : (c :: more).dropWhile isAttributeChar = stop := List.dropWhile_cons_of_pos hc
      have hvalue : value.2 <:+ rest :=
        (attributeValue_suffix stop).trans ((hstop ▸ List.dropWhile_suffix _).trans hcursor)
      have hfirst := attributesFaithful_attributeAt (hcursor.trans h) hstop
      exact (hfirst.append (ih (hvalue.trans h))).mono (offsetOf_le_of_suffix hcursor)
  | case5 rest c more hhere _ _ _ ih =>
      have hmore : more <:+ rest := suffix_of_dropWhile_eq hhere
      exact (ih (hmore.trans h)).mono (offsetOf_le_of_suffix hmore)

/-! ### Start tags -/

theorem localNameSpan_eq {tag : MarkupTag} {total : Nat} {start : List Char}
    (hsmall : total < offsetLimit)
    (hspan : tag.nameSpan = spanBetween total rest later)
    (hspace : offsetOf total rest + tag.spaceLength = offsetOf total start) :
    tag.localNameSpan = spanBetween total start later := by
  have hle := offsetOf_le total start
  rw [MarkupTag.localNameSpan, hspan, spanBetween, spanBetween, ← hspace]
  simp only [moveOffset_of_lt (show offsetOf total rest + tag.spaceLength < offsetLimit by omega)]

/-- The name of a tag is what the text has behind the namespace. -/
theorem slice?_localNameSpan {tag : MarkupTag} {qualified : List Char}
    (h : qualified ++ later <:+ text) (hsmall : byteLength text < offsetLimit)
    (hname : tag.name = nameOf qualified)
    (hspan : tag.nameSpan = spanBetween (byteLength text) (qualified ++ later) later) :
    slice? text tag.localNameSpan = some tag.name.localPart.toList := by
  cases hcolon : qualified.dropWhile (· ≠ ':') with
  | nil =>
      have hplain : tag.name = ⟨none, String.ofList qualified⟩ := by
        rw [hname]
        simp only [nameOf, hcolon]
      have hspace : tag.spaceLength = 0 := by simp only [MarkupTag.spaceLength, hplain]
      rw [localNameSpan_eq hsmall hspan (by rw [hspace, Nat.add_zero]), hplain,
        String.toList_ofList]
      exact slice?_spanBetween h
  | cons c localPart =>
      obtain rfl : c = ':' := eq_of_dropWhile_ne hcolon
      have hsplit : (qualified.takeWhile (· ≠ ':') ++ [':']) ++ localPart = qualified := by
        rw [List.append_assoc, List.singleton_append, ← hcolon, List.takeWhile_append_dropWhile]
      have hspaced : tag.name = ⟨some (String.ofList (qualified.takeWhile (· ≠ ':'))),
          String.ofList localPart⟩ := by
        rw [hname]
        simp only [nameOf, hcolon]
      have hspace : tag.spaceLength = byteLength (qualified.takeWhile (· ≠ ':') ++ [':']) := by
        simp only [MarkupTag.spaceLength, hspaced, String.toList_ofList, byteLength_append]
        rfl
      rw [← hsplit, List.append_assoc] at h hspan
      rw [localNameSpan_eq hsmall hspan (by rw [hspace, offsetOf_append _ h]), hspaced,
        String.toList_ofList]
      exact slice?_spanBetween (suffix_of_append _ h)

/-- The script of a body stands in the body. -/
theorem suffix_scriptBody (rest : List Char) :
    (scriptBody rest).1 <:+ rest ∧ (scriptBody rest).2 <:+ (scriptBody rest).1 := by
  simp only [scriptBody]
  split
  · exact ⟨(List.drop_suffix _ _).trans (seek_suffix _ _), seek_suffix _ _⟩
  · exact ⟨List.suffix_refl _, seek_suffix _ _⟩

/-- A start tag has a script region in its body only if it is a script tag. -/
theorem tagBody_eq (role : TagRole) {tail : OpenTail} (h : tail.rest <:+ text) :
    (tagBody (byteLength text) role tail).1 = [] ∨
      ∃ region, (tagBody (byteLength text) role tail).1 = [region] ∧ role = .script ∧
        LiesIn text region ∧ offsetOf (byteLength text) tail.rest ≤ region.start := by
  unfold tagBody
  split
  · exact .inl rfl
  · cases role with
    | script =>
        obtain ⟨hstart, hstop⟩ := suffix_scriptBody tail.rest
        exact .inr ⟨_, rfl, rfl, liesIn_spanBetween (hstart.trans h) hstop,
          offsetOf_le_of_suffix hstart⟩
    | style => exact .inl rfl
    | component => exact .inl rfl

/-- A start tag is read faithfully. -/
theorem faithful_tagOf {here name : List Char} {tail : OpenTail} (hhere : here <:+ text)
    (hname : name <:+ here)
    (htail : openTail (byteLength text) (name.dropWhile isTagNameChar) = tail) :
    Faithful text (tagOf (byteLength text) here name tail) := by
  have hnameStop : name.dropWhile isTagNameChar <:+ name := List.dropWhile_suffix _
  have hrest : tail.rest <:+ name.dropWhile isTagNameChar := htail ▸ openTail_suffix _ _
  have hinText : name.dropWhile isTagNameChar <:+ text := (hnameStop.trans hname).trans hhere
  have hread := attributesFaithful_openTail hinText
  rw [htail] at hread
  have hattributes := List.forall_mem_append.mp hread.liesIn
  have hbody := tagBody_eq (roleOf (nameOf (name.takeWhile isTagNameChar)))
    (hrest.trans hinText)
  have hopened := liesIn_spanBetween hhere (hrest.trans (hnameStop.trans hname))
  have hnamed := liesIn_spanBetween (hname.trans hhere) hnameStop
  constructor
  case liesIn =>
    simp only [MarkupTag.spans, MarkupTag.partSpans, tagOf, List.forall_mem_cons,
      List.forall_mem_append]
    refine ⟨⟨hopened, hopened, fun _ h => by cases h⟩, ⟨hnamed, hattributes.1⟩, hattributes.2, ?_⟩
    cases hbody with
    | inl hnone =>
        rw [hnone]
        exact fun _ h => by cases h
    | inr hscript =>
        obtain ⟨region, hregion, -, hlies, -⟩ := hscript
        rw [hregion, List.forall_mem_singleton]
        exact hlies
  case starts => rfl
  case inside =>
    simp only [MarkupTag.partSpans, tagOf, List.forall_mem_cons, Span.encloses_iff, spanBetween]
    refine ⟨⟨offsetOf_le_of_suffix hname, offsetOf_le_of_suffix hrest⟩, ?_⟩
    intro s hs
    have hbetween := hread.between s hs
    exact ⟨Nat.le_trans (offsetOf_le_of_suffix (hnameStop.trans hname)) hbetween.1, hbetween.2⟩
  case inOrder => exact List.pairwise_cons.mpr ⟨fun s hs => (hread.between s hs).1, hread.inOrder⟩
  case localName =>
    intro hsmall
    have hsplit : name.takeWhile isTagNameChar ++ name.dropWhile isTagNameChar = name :=
      List.takeWhile_append_dropWhile
    refine slice?_localNameSpan (hsplit.symm ▸ hname.trans hhere) hsmall rfl ?_
    rw [hsplit]
    rfl
  case tells => exact hread.tells
  case regions =>
    refine ⟨tail.regions, _, rfl, hread.isBinding, hbody.imp_right ?_⟩
    rintro ⟨region, hregion, hrole, -, hbehind⟩
    exact ⟨region, hregion, hrole, hbehind⟩
  case close => exact fun _ h => by cases h

/-! ### The tree -/

namespace Tree

/-- The tags read so far are faithful, and their start tags end at the offset at the latest. -/
def Placed (text : List Char) (t : Tree) (position : Nat) : Prop :=
  ∀ tag ∈ t.tags, Faithful text tag ∧ tag.openSpan.stop ≤ position

variable {t : Tree} {tag : MarkupTag} {position further : Nat} {name : Span}

theorem Placed.mono (h : t.Placed text position) (hfurther : position ≤ further) :
    t.Placed text further :=
  fun tag htag => ⟨(h tag htag).1, Nat.le_trans (h tag htag).2 hfurther⟩

/-- A tag may get other links. -/
theorem faithful_of_links (h : Faithful text tag) (parent : Option TagId) (children : List TagId) :
    Faithful text { tag with parent, children } :=
  ⟨h.liesIn, h.starts, h.inside, h.inOrder, h.localName, h.tells, h.regions, h.close⟩

theorem faithful_adopt {id : TagId} (h : Faithful text tag) : Faithful text (t.adopt id tag) := by
  unfold adopt
  split
  · exact faithful_of_links h _ _
  · exact h

/-- The end tag stands behind the start tag. -/
theorem faithful_close {stop : Nat} (h : Faithful text tag) (hname : LiesIn text name)
    (hbehind : tag.openSpan.stop + 2 ≤ name.start) (hstop : name.stop ≤ stop)
    (hinText : stop ≤ byteLength text) (hboundary : IsBoundary text stop) :
    Faithful text { tag with closeNameSpan := some name, span := ⟨tag.span.start, stop⟩ } := by
  have hspans := h.liesIn
  simp only [MarkupTag.spans, List.forall_mem_cons, List.forall_mem_append] at hspans
  obtain ⟨⟨hspan, hopened, -⟩, hparts⟩ := hspans
  refine ⟨?_, h.starts, h.inside, h.inOrder, h.localName, h.tells, h.regions, ?_⟩
  · simp only [MarkupTag.spans, List.forall_mem_cons, List.forall_mem_append]
    refine ⟨⟨⟨?_, hinText, hspan.start, hboundary⟩, hopened, ?_⟩, hparts⟩
    · have hupright := hopened.upright
      have hnamed := hname.upright
      rw [h.starts]
      simp only
      omega
    · rw [Option.toList_some, List.forall_mem_singleton]
      exact hname
  · intro close hclose
    cases hclose
    exact hbehind

theorem Placed.start (selfClosing : Bool) (h : t.Placed text position) (htag : Faithful text tag)
    (hbehind : position ≤ tag.openSpan.stop) :
    (t.start tag selfClosing).Placed text tag.openSpan.stop := by
  intro found hfound
  rw [tags_start] at hfound
  cases List.mem_append.mp hfound with
  | inl hold =>
      obtain ⟨i, hi, rfl⟩ := List.mem_mapIdx.mp hold
      obtain ⟨hfaithful, hread⟩ := h _ (List.getElem_mem hi)
      rw [adopt_openSpan]
      exact ⟨faithful_adopt hfaithful, Nat.le_trans hread hbehind⟩
  | inr hnew =>
      rw [List.mem_singleton.mp hnew]
      exact ⟨faithful_of_links htag _ _, Nat.le_refl _⟩

theorem Placed.close {stop : Nat} (h : t.Placed text position) (hname : LiesIn text name)
    (hbehind : position + 2 ≤ name.start) (hstop : name.stop ≤ stop)
    (hinText : stop ≤ byteLength text) (hboundary : IsBoundary text stop) :
    (t.close name stop).Placed text stop := by
  have hupright := hname.upright
  have hlater : t.Placed text stop := h.mono (by omega)
  unfold Tree.close
  split
  · exact hlater
  · rename_i top _ _
    intro found hfound
    obtain ⟨i, hi⟩ := List.mem_iff_getElem?.mp hfound
    rw [List.getElem?_modify, Option.map_eq_map, Option.map_eq_some_iff] at hi
    obtain ⟨old, hold, rfl⟩ := hi
    obtain ⟨hfaithful, hread⟩ := h old (List.mem_of_getElem? hold)
    split
    · exact ⟨faithful_close hfaithful hname (by omega) hstop hinText hboundary, by simp only; omega⟩
    · exact hlater old (List.mem_of_getElem? hold)

/-- From any place on, the tags are read faithfully. -/
theorem faithful_of_mem_foldl (h : rest <:+ text)
    (ht : t.Placed text (offsetOf (byteLength text) rest)) :
    ∀ tag ∈ ((events (byteLength text) rest).foldl step t).tags, Faithful text tag := by
  fun_induction events (byteLength text) rest generalizing t with
  | case1 => exact fun tag htag => (ht tag htag).1
  | case2 rest c body hrest mark _ ih =>
      have hnext : skipPast mark (c :: body) <:+ rest :=
        (skipPast_suffix _ _).trans (hrest ▸ List.dropWhile_suffix _)
      exact ih (hnext.trans h) (ht.mono (offsetOf_le_of_suffix hnext))
  | case3 rest c body hrest _ hslash name nameStop stop =>
      rename_i ih
      obtain rfl : c = '<' := eq_of_dropWhile_ne hrest
      obtain ⟨later, rfl⟩ := List.head?_eq_some_iff.mp hslash
      have hhere : '<' :: '/' :: later <:+ rest := hrest ▸ List.dropWhile_suffix _
      have hname : later <:+ text := suffix_of_append ['<', '/'] (hhere.trans h)
      have hnameStop : nameStop <:+ later := List.dropWhile_suffix _
      have hstop : stop <:+ nameStop := skipPast_suffix _ _
      have hstart : offsetOf (byteLength text) ('<' :: '/' :: later) + 2 =
          offsetOf (byteLength text) later := offsetOf_append ['<', '/'] (hhere.trans h)
      have hread := ht.mono (offsetOf_le_of_suffix hhere)
      have hinText : stop <:+ text := hstop.trans (hnameStop.trans hname)
      exact ih hinText (hread.close (liesIn_spanBetween hname hnameStop) (Nat.le_of_eq hstart)
        (offsetOf_le_of_suffix hstop) (offsetOf_le _ _) (isBoundary_offsetOf hinText))
  | case4 rest c body hrest _ _ tail tag =>
      rename_i ih
      have hhere : c :: body <:+ rest := hrest ▸ List.dropWhile_suffix _
      have htail : tail.rest <:+ c :: body :=
        ((openTail_suffix _ _).trans (List.dropWhile_suffix _)).trans (List.suffix_cons c body)
      have hnext : (tagBody (byteLength text) tag.role tail).2 <:+ tail.rest :=
        tagBody_suffix _ _ _
      have hfaithful : Faithful text tag :=
        faithful_tagOf (hhere.trans h) (List.suffix_cons c body) rfl
      have hread := ht.start tail.selfClosing hfaithful
        (offsetOf_le_of_suffix (htail.trans hhere))
      exact ih ((hnext.trans htail).trans (hhere.trans h))
        (hread.mono (offsetOf_le_of_suffix hnext))

end Tree

/-- Every tag of a document is read faithfully. -/
theorem faithful_of_mem_document {path : Path} {text : String} {tag : MarkupTag}
    (h : tag ∈ (document path text).tags) : Faithful text.toList tag := by
  have hempty : ({} : Tree).Placed text.toList (offsetOf (byteLength text.toList) text.toList) :=
    fun tag htag => absurd htag List.not_mem_nil
  exact Tree.faithful_of_mem_foldl (List.suffix_refl _) hempty tag h

end Markup

end SymbolNav
