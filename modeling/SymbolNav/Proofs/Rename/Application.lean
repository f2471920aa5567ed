import Mathlib.Data.List.Forall2
import SymbolNav.Proofs.Rename.Plan

/-!
# Applying the edits of a unit

An editor turns the ranges of a batch back into offsets of the text it shows and replaces them from
the last one to the first, so that no replacement moves a place that is still to be replaced. The
result is compared with the bytes of the text: the kept spans are replaced, and every other byte
stays as it is and in its order. This takes a text whose lines and columns can be counted; behind
more lines than that, an edit is made at the start of the text.
-/

namespace SymbolNav

namespace Text

/-- The text with a span replaced, if the span is upright and both ends fall between characters. -/
def replace? (text : List Char) (s : Span) (new : List Char) : Option (List Char) :=
  if s.start ≤ s.stop then
    (takeBytes? text s.start).bind fun front =>
      (dropBytes? text s.stop).map fun back => front ++ new ++ back
  else
    none

/-- The bytes from offset `here` on, with the given spans replaced. -/
def spliceBytes (new : List UInt8) : (here : Nat) → List Span → List UInt8 → List UInt8
  | _, [], bytes => bytes
  | here, s :: spans, bytes =>
    bytes.take (s.start - here) ++ new ++ spliceBytes new s.stop spans (bytes.drop (s.stop - here))

end Text

namespace TextEdit

/-- The span of a text that an edit replaces. -/
def span? (edit : TextEdit) (text : List Char) : Option Span :=
  (Text.offset? text edit.range.start).bind fun start =>
    (Text.offset? text edit.range.stop).map fun stop => ⟨start, stop⟩

/-- Make the edits of a text, the last one first. All ranges refer to the text as it was. -/
def applyAll? (text : List Char) : List TextEdit → Option (List Char)
  | [] => some text
  | edit :: edits =>
    (applyAll? text edits).bind fun edited =>
      (edit.span? text).bind fun s => Text.replace? edited s edit.newText.toList

end TextEdit

namespace Text

/-- A span that an edit can replace: not empty, between characters, and at no end between a carriage
return and its line feed. -/
structure Editable (text : List Char) (s : Span) : Prop where
  nonempty : s.start < s.stop
  start_boundary : IsBoundary text s.start
  stop_boundary : IsBoundary text s.stop
  start_whole : ¬ SplitsLineEnd text s.start
  stop_whole : ¬ SplitsLineEnd text s.stop

variable {text : List Char} {a b s : Span}

namespace Editable

/-- The range of the span leads back to it. -/
theorem exists_range (h : Editable text s) (hfits : FitsEditor text) :
    ∃ range, range? text s = some range ∧ range.start < range.stop ∧
      offset? text range.start = some s.start ∧ offset? text range.stop = some s.stop := by
  obtain ⟨front, back, hcut⟩ := isBoundary_iff.mp h.start_boundary
  obtain ⟨front', back', hcut'⟩ := isBoundary_iff.mp h.stop_boundary
  refine ⟨⟨Position.after ⟨0, 0⟩ front, Position.after ⟨0, 0⟩ front'⟩, ?_,
    hcut.after_lt_after hcut' h.nonempty, hcut.offset?_after h.start_whole,
    hcut'.offset?_after h.stop_whole⟩
  rw [range?, hcut.position?_of_fits hfits, hcut'.position?_of_fits hfits]
  rfl

theorem span?_eq {edit : TextEdit} (h : Editable text s) (hfits : FitsEditor text)
    (hrange : range? text s = some edit.range) : edit.span? text = some s := by
  obtain ⟨range, hrange', -, hstart, hstop⟩ := h.exists_range hfits
  obtain rfl : edit.range = range := Option.some.inj (hrange.symm.trans hrange')
  rw [TextEdit.span?, hstart, hstop]
  rfl

/-- The ranges of spans that follow one another do so too. -/
theorem stop_le_start (ha : Editable text a) (hb : Editable text b) (hfits : FitsEditor text)
    (hab : a.stop ≤ b.start) {first second : PositionRange} (hfirst : range? text a = some first)
    (hsecond : range? text b = some second) : first.stop ≤ second.start := by
  obtain ⟨front, back, hcut⟩ := isBoundary_iff.mp ha.stop_boundary
  obtain ⟨front', back', hcut'⟩ := isBoundary_iff.mp hb.start_boundary
  obtain ⟨_, -, hmap⟩ := Option.bind_eq_some_iff.mp hfirst
  obtain ⟨stop, hstop, rfl⟩ := Option.map_eq_some_iff.mp hmap
  obtain ⟨start, hstart, hmap⟩ := Option.bind_eq_some_iff.mp hsecond
  obtain ⟨_, -, rfl⟩ := Option.map_eq_some_iff.mp hmap
  obtain rfl : stop = _ := Option.some.inj (hstop.symm.trans (hcut.position?_of_fits hfits))
  obtain rfl : start = _ := Option.some.inj (hstart.symm.trans (hcut'.position?_of_fits hfits))
  exact hcut.after_le_after hcut' hab

end Editable

/-- Replacing the last part of the front of a text leaves what stands behind the front. -/
theorem replace?_append {front mid back new : List Char} (hstart : byteLength front = s.start)
    (hstop : byteLength (front ++ mid) = s.stop) :
    replace? (front ++ mid ++ back) s new = some (front ++ new ++ back) := by
  have htake : takeBytes? (front ++ mid ++ back) s.start = some front := by
    rw [← hstart, List.append_assoc]
    exact takeBytes?_append front (mid ++ back)
  have hdrop : dropBytes? (front ++ mid ++ back) s.stop = some back := by
    rw [← hstop]
    exact dropBytes?_append (front ++ mid) back
  have hle : s.start ≤ s.stop := by
    rw [← hstart, ← hstop, byteLength_append]
    exact Nat.le_add_right _ _
  rw [replace?, if_pos hle, htake, hdrop]
  rfl

theorem replace?_nothing (text new : List Char) :
    replace? text ⟨0, 0⟩ new = some (new ++ text) := by
  rw [replace?, if_pos (Nat.le_refl 0)]
  cases text <;> rfl

/-- The bytes in front of the first span stay, and the splice goes on behind it. -/
theorem spliceBytes_append {front mid back : List Char} {new : List UInt8} {here : Nat}
    {spans : List Span} (hstart : here + byteLength front = s.start)
    (hstop : s.start + byteLength mid = s.stop) :
    spliceBytes new here (s :: spans) (encode (front ++ (mid ++ back))) =
      encode front ++ new ++ spliceBytes new s.stop spans (encode back) := by
  have htake : (encode (front ++ (mid ++ back))).take (s.start - here) = encode front := by
    rw [encode_append]
    exact List.take_left' (by rw [length_encode]; omega)
  have hdrop : (encode (front ++ (mid ++ back))).drop (s.stop - here) = encode back := by
    rw [← List.append_assoc, encode_append]
    exact List.drop_left' (by rw [length_encode, byteLength_append]; omega)
  rw [spliceBytes, htake, hdrop]

end Text

namespace TextEdit

variable {text : List Char} {newName : String}

/-- The run of all edits. The induction is on the spans, which all lie behind the characters
`front`: those are not touched, and what follows them has its bytes spliced. -/
theorem applyAll?_eq {spans : List Span} {edits : List TextEdit} (hfits : Text.FitsEditor text)
    (matching : List.Forall₂ (fun s (edit : TextEdit) =>
      Text.range? text s = some edit.range ∧ edit.newText = newName) spans edits)
    (editable : ∀ s ∈ spans, Text.Editable text s)
    (ordered : spans.Pairwise fun a b => a.stop ≤ b.start) {here : Nat} {front back : List Char}
    (hcut : Text.Cut text here front back) (behind : ∀ s ∈ spans, here ≤ s.start) :
    ∃ tail, applyAll? text edits = some (front ++ tail) ∧
      Text.encode tail =
        Text.spliceBytes (Text.encode newName.toList) here spans (Text.encode back) := by
  induction matching generalizing here front back with
  | nil => exact ⟨back, congrArg some hcut.text_eq, rfl⟩
  | @cons s edit spans edits hedit _ ih =>
      obtain ⟨hrange, hname⟩ := hedit
      have hs := editable s List.mem_cons_self
      obtain ⟨start, afterStart, hstart⟩ := Text.isBoundary_iff.mp hs.start_boundary
      obtain ⟨stop, afterStop, hstop⟩ := Text.isBoundary_iff.mp hs.stop_boundary
      obtain ⟨between, rfl, rfl, hbetween⟩ :=
        hcut.exists_between hstart (behind s List.mem_cons_self)
      obtain ⟨mid, rfl, rfl, hmid⟩ := hstart.exists_between hstop (Nat.le_of_lt hs.nonempty)
      obtain ⟨tail, hrest, htail⟩ := ih (fun t ht => editable t (List.mem_cons_of_mem _ ht))
        ordered.of_cons hstop (List.pairwise_cons.mp ordered).1
      refine ⟨between ++ newName.toList ++ tail, ?_, ?_⟩
      · rw [applyAll?, hrest, Option.bind_some, hs.span?_eq hfits hrange, Option.bind_some, hname,
          Text.replace?_append hstart.byteLength_eq hstop.byteLength_eq]
        simp only [List.append_assoc]
      · rw [Text.spliceBytes_append hbetween hmid, Text.encode_append, Text.encode_append, htail]

end TextEdit

namespace Context

variable {ctx : Context} {u : UnitId} {text newName : String} {spans : List Span}

theorem editorRange?_eq (htext : ctx.project.text? u = some text) (s : Span) :
    ctx.project.editorRange? u s = Text.range? text.toList s := by
  rw [Project.editorRange?, htext, Option.bind_some]

theorem mem_unitEdits_iff (htext : ctx.project.text? u = some text) {edit : TextEdit} :
    edit ∈ ctx.unitEdits u spans newName ↔ edit.newText = newName ∧
      ∃ s ∈ Rename.disjoint spans, Text.range? text.toList s = some edit.range := by
  obtain ⟨range, newText⟩ := edit
  simp only [unitEdits, List.mem_filterMap, editorRange?_eq htext, Option.map_eq_some_iff,
    TextEdit.mk.injEq]
  constructor
  · rintro ⟨s, hs, found, hfound, rfl, rfl⟩
    exact ⟨rfl, s, hs, hfound⟩
  · rintro ⟨rfl, s, hs, hfound⟩
    exact ⟨s, hs, range, hfound, rfl, rfl⟩

theorem pairwise_unitEdits (htext : ctx.project.text? u = some text)
    (hfits : Text.FitsEditor text.toList)
    (editable : ∀ s ∈ spans, Text.Editable text.toList s) :
    (ctx.unitEdits u spans newName).Pairwise fun a b => a.range.stop ≤ b.range.start := by
  have hkept : ∀ s ∈ Rename.disjoint spans, Text.Editable text.toList s :=
    fun s hs => editable s (Rename.mem_of_mem_disjoint hs)
  have ordered := Rename.pairwise_disjoint fun s hs => Nat.le_of_lt (editable s hs).nonempty
  have related : (Rename.disjoint spans).Pairwise fun a b =>
      Text.Editable text.toList a ∧ Text.Editable text.toList b ∧ a.stop ≤ b.start :=
    ordered.imp_of_mem fun ha hb hab => ⟨hkept _ ha, hkept _ hb, hab⟩
  refine related.filterMap _ ?_
  rintro a b ⟨ha, hb, hab⟩ first hfirst second hsecond
  rw [editorRange?_eq htext] at hfirst hsecond
  obtain ⟨range, hrange, rfl⟩ := Option.map_eq_some_iff.mp hfirst
  obtain ⟨range', hrange', rfl⟩ := Option.map_eq_some_iff.mp hsecond
  exact ha.stop_le_start hb hfits hab hrange hrange'

/-- An editor that applies the edits of a unit makes exactly the replacements that were meant, if it
can count the lines and columns of the text. There is one edit for each kept span, the ranges of the
edits are in order and do not overlap, and the bytes of the edited text are those of the text with
the kept spans replaced by the new name. -/
theorem unitEdits_replace_kept_spans (htext : ctx.project.text? u = some text)
    (hfits : Text.FitsEditor text.toList)
    (editable : ∀ s ∈ spans, Text.Editable text.toList s) :
    List.Forall₂ (fun s (edit : TextEdit) =>
        Text.range? text.toList s = some edit.range ∧ edit.newText = newName)
      (Rename.disjoint spans) (ctx.unitEdits u spans newName) ∧
    (ctx.unitEdits u spans newName).Pairwise (fun a b => a.range.stop ≤ b.range.start) ∧
    (∀ edit ∈ ctx.unitEdits u spans newName, edit.range.start < edit.range.stop) ∧
    ∃ result, TextEdit.applyAll? text.toList (ctx.unitEdits u spans newName) = some result ∧
      Text.encode result = Text.spliceBytes (Text.encode newName.toList) 0 (Rename.disjoint spans)
        (Text.encode text.toList) := by
  have fits : ∀ s ∈ spans, ctx.project.Fits u s := fun s hs =>
    ⟨(editable s hs).nonempty, text, htext, (editable s hs).start_boundary,
      (editable s hs).stop_boundary⟩
  have matching : List.Forall₂ (fun s (edit : TextEdit) =>
      ctx.project.editorRange? u s = some edit.range ∧ edit.newText = newName)
      (Rename.disjoint spans) (ctx.unitEdits u spans newName) := forall₂_unitEdits fits
  simp only [editorRange?_eq htext] at matching
  have hkept : ∀ s ∈ Rename.disjoint spans, Text.Editable text.toList s :=
    fun s hs => editable s (Rename.mem_of_mem_disjoint hs)
  refine ⟨matching, pairwise_unitEdits htext hfits editable, ?_, ?_⟩
  · intro edit hedit
    obtain ⟨-, s, hs, hrange⟩ := (mem_unitEdits_iff htext).mp hedit
    obtain ⟨range, hrange', hlt, -, -⟩ := (hkept s hs).exists_range hfits
    obtain rfl : edit.range = range := Option.some.inj (hrange.symm.trans hrange')
    exact hlt
  · have ordered := Rename.pairwise_disjoint fun s hs => Nat.le_of_lt (editable s hs).nonempty
    have hcut : Text.Cut text.toList 0 [] text.toList := ⟨rfl, rfl⟩
    exact TextEdit.applyAll?_eq hfits matching hkept ordered hcut fun _ _ => Nat.zero_le _

/-- Behind a line end of two characters and a character of two code units, two of three spans are
kept, which touch each other. -/
theorem unitEdits_replace_kept_spans_of_wide_text :
    let text := "a\r\n𝒳b c"
    let ctx : Context := { project := ⟨{}, [some text]⟩ }
    let spans : List Span := [⟨7, 10⟩, ⟨7, 8⟩, ⟨3, 7⟩]
    Text.FitsEditor text.toList ∧ (∀ s ∈ spans, Text.Editable text.toList s) ∧
      ∃ result, TextEdit.applyAll? text.toList (ctx.unitEdits ⟨0⟩ spans "x") = some result ∧
        Text.encode result = Text.spliceBytes (Text.encode "x".toList) 0 (Rename.disjoint spans)
          (Text.encode text.toList) := by
  intro text ctx spans
  have hfits : Text.FitsEditor text.toList := Text.fitsEditor_of_utf16Length (by decide)
  have editable : ∀ s ∈ spans, Text.Editable text.toList s := by
    intro s hs
    simp only [spans, List.mem_cons, List.not_mem_nil, or_false] at hs
    rcases hs with rfl | rfl | rfl <;>
      exact ⟨by decide, by decide, by decide, by decide, by decide⟩
  exact ⟨hfits, editable, (unitEdits_replace_kept_spans rfl hfits editable).2.2.2⟩

end Context

namespace FarSample

noncomputable def context : Context where
  project := ⟨{}, [some text]⟩

def letter : Span := ⟨columnLimit, columnLimit + 1⟩

theorem cut_stop : Text.Cut text.toList letter.stop (Text.lineFeeds ++ ['a']) [] := by
  refine ⟨by rw [toList_text, List.append_nil], ?_⟩
  rw [Text.byteLength_append, cut_start.byteLength_eq]
  rfl

theorem editable : Text.Editable text.toList letter where
  nonempty := Nat.lt_succ_self columnLimit
  start_boundary := isBoundary_start
  stop_boundary := Text.isBoundary_iff.mpr ⟨_, _, cut_stop⟩
  start_whole := not_splitsLineEnd_start
  stop_whole := by
    rw [Text.splitsLineEnd_iff, cut_stop.dropBytes?_eq]
    rintro ⟨-, ⟨⟩⟩

/-- The letter seems to stand on the first line. -/
theorem range?_letter : Text.range? text.toList letter = some ⟨⟨0, 0⟩, ⟨0, 1⟩⟩ := by
  have hstop : Text.position? text.toList (columnLimit + 1) = some ⟨0, 1⟩ := by
    rw [toList_text]
    exact Text.position?_behind_lineFeeds ['a'] 1
  rw [Text.range?, letter, position?_start, hstop]
  rfl

theorem disjoint_letter : Rename.disjoint [letter] = [letter] := by
  refine Rename.disjoint_eq_self ?_ (List.pairwise_singleton _ _)
  intro s hs
  rw [List.mem_singleton.mp hs]
  exact Nat.le_succ columnLimit

theorem unitEdits_letter :
    context.unitEdits ⟨0⟩ [letter] "x" = [⟨⟨⟨0, 0⟩, ⟨0, 1⟩⟩, "x"⟩] := by
  have htext : context.project.text? ⟨0⟩ = some text := rfl
  have hrange : context.project.editorRange? ⟨0⟩ letter = some ⟨⟨0, 0⟩, ⟨0, 1⟩⟩ := by
    rw [Context.editorRange?_eq htext]
    exact range?_letter
  have hkept : (context.project.editorRange? ⟨0⟩ letter).map (TextEdit.mk · "x") =
      some ⟨⟨⟨0, 0⟩, ⟨0, 1⟩⟩, "x"⟩ := by
    rw [hrange]
    rfl
  rw [Context.unitEdits, disjoint_letter]
  exact List.filterMap_cons_some hkept

/-- The first line is empty, so the new name is put in front of the text. -/
theorem applyAll?_letter :
    TextEdit.applyAll? text.toList (context.unitEdits ⟨0⟩ [letter] "x") =
      some ("x".toList ++ text.toList) := by
  have hspan : TextEdit.span? ⟨⟨⟨0, 0⟩, ⟨0, 1⟩⟩, "x"⟩ text.toList = some ⟨0, 0⟩ := by
    rw [TextEdit.span?, toList_text, Text.offset?_lineFeeds, Text.offset?_lineFeeds]
    rfl
  rw [unitEdits_letter, TextEdit.applyAll?, TextEdit.applyAll?, Option.bind_some, hspan,
    Option.bind_some, Text.replace?_nothing]

end FarSample

namespace Context

/-- Behind as many line feeds as there are line numbers, a letter is to be replaced. All is well
with its span, but the new name is put in front of the text and the letter stays. -/
theorem unitEdits_misplaced_behind_lineFeeds :
    (∀ s ∈ [FarSample.letter], Text.Editable FarSample.text.toList s) ∧
      ∃ result, TextEdit.applyAll? FarSample.text.toList
          (FarSample.context.unitEdits ⟨0⟩ [FarSample.letter] "x") = some result ∧
        Text.encode result ≠ Text.spliceBytes (Text.encode "x".toList) 0
          (Rename.disjoint [FarSample.letter]) (Text.encode FarSample.text.toList) := by
  refine ⟨?_, _, FarSample.applyAll?_letter, ?_⟩
  · intro s hs
    rw [List.mem_singleton.mp hs]
    exact FarSample.editable
  · intro hsame
    -- The text has grown by the name, where it should have stayed as long as it was.
    have hfront : 0 + Text.byteLength Text.lineFeeds = FarSample.letter.start := by
      rw [Nat.zero_add]
      exact Text.byteLength_lineFeeds
    have hmid : FarSample.letter.start + Text.byteLength ['a'] = FarSample.letter.stop := rfl
    rw [FarSample.disjoint_letter, FarSample.toList_text, ← List.append_nil ['a'],
      Text.spliceBytes_append hfront hmid, Text.encode_append, Text.encode_append] at hsame
    have hlengths := congrArg List.length hsame
    have hold : (Text.encode (['a'] ++ [])).length = 1 := rfl
    have hrest : (Text.encode []).length = 0 := rfl
    simp only [Text.spliceBytes, List.length_append, hold, hrest] at hlengths
    omega

end Context

end SymbolNav
