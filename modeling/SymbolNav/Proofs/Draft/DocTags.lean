import Mathlib.Data.List.DropRight
import Mathlib.Data.List.TakeWhile
import SymbolNav.Navigation.DocReference
import SymbolNav.Proofs.Draft.Growth
import SymbolNav.Proofs.Text.Inverse

/-!
# References stand where their tags say

The columns of a reference are counted twice: the scanner takes the ends of a tag from the line
index of the text, and navigation goes on from there by the lengths of the name, of the blanks and
of the first word. `StandsIn` says what a tag tells about the text around it. From it follow the
position behind any first part of the description, and with it that the range of a reference
delimits the reference in the text.

Only one thing could go wrong at the ends of the range in a text that fits into an editor. A
position between a carriage return and its line feed would not lead back to its offset; but the word
holds no blanks, so it neither ends with the one nor starts with the other. In a text with too many
lines the tag itself does not know its line: behind as many line feeds as there are line numbers it
claims to stand on the first line.
-/

namespace SymbolNav

namespace Text

/-- The ends of the range lead to two offsets with the word between them, and are the positions of
these offsets. -/
def Delimits (text : List Char) (range : PositionRange) (word : List Char) : Prop :=
  ∃ start stop, offset? text range.start = some start ∧ offset? text range.stop = some stop ∧
    start ≤ stop ∧ slice? text ⟨start, stop⟩ = some word ∧
    position? text start = some range.start ∧ position? text stop = some range.stop

variable {text front back : List Char} {offset : Nat}

/-- ASCII letters and digits are single code units. -/
theorem utf16Size_of_isAlphanum {c : Char} (h : c.isAlphanum) : utf16Size c = 1 := by
  have hlt : c.val.toNat < 128 := toNat_lt_of_isAlphanum h
  have hle : c.val ≤ 0xFFFF := by
    rw [UInt32.le_iff_toNat_le]
    exact Nat.le_trans (Nat.le_of_lt hlt) (by decide)
  rw [utf16Size, if_pos hle]

theorem utf16Length_of_isAlphanum (h : ∀ c ∈ text, c.isAlphanum) :
    utf16Length text = text.length := by
  induction text with
  | nil => rfl
  | cons c text ih =>
      obtain ⟨hc, htext⟩ := List.forall_mem_cons.mp h
      rw [utf16Length_cons, ih htext, utf16Size_of_isAlphanum hc, List.length_cons, Nat.add_comm]

/-- A boundary behind a character that is no blank splits no line end. -/
theorem not_splitsLineEnd_of_getLast? {c : Char} (hcut : Cut text offset front back)
    (hlast : front.getLast? = some c) (hc : isBlank c = false) : ¬ SplitsLineEnd text offset := by
  rw [splitsLineEnd_iff, hcut.takeBytes?_eq, Option.bind_some, hlast]
  rintro ⟨⟨⟩, -⟩
  exact absurd hc (by decide)

/-- A boundary in front of a character that is no blank splits no line end. -/
theorem not_splitsLineEnd_of_head? {c : Char} (hcut : Cut text offset front back)
    (hhead : back.head? = some c) (hc : isBlank c = false) : ¬ SplitsLineEnd text offset := by
  rw [splitsLineEnd_iff, hcut.dropBytes?_eq, Option.bind_some, hhead]
  rintro ⟨-, ⟨⟩⟩
  exact absurd hc (by decide)

/-- A text is its first blanks, its first word and the rest. -/
theorem exists_firstWord (text : List Char) :
    ∃ rest, text = text.takeWhile isBlank ++ (firstWord text ++ rest) := by
  refine ⟨(trimStart text).dropWhile (!isBlank ·), ?_⟩
  rw [firstWord, List.takeWhile_append_dropWhile, trimStart, List.takeWhile_append_dropWhile]

theorem isBlank_of_mem_firstWord {c : Char} (h : c ∈ firstWord text) : isBlank c = false := by
  simpa using List.mem_takeWhile_imp h

theorem utf16Length_le_of_sublist {part : List Char} (h : part.Sublist text) :
    utf16Length part ≤ utf16Length text := by
  induction h with
  | slnil => exact Nat.le_refl 0
  | cons c _ ih =>
      rw [utf16Length_cons]
      exact Nat.le_add_left_of_le ih
  | cons_cons c _ ih =>
      rw [utf16Length_cons, utf16Length_cons]
      exact Nat.add_le_add_left ih _

/-- A needle that does not start with a line feed is looked for behind them. -/
theorem occurrencesFrom_replicate_lineFeed {c : Char} (hc : c ≠ '\n') (needle : List Char)
    (n offset : Nat) : occurrencesFrom (c :: needle) 0 offset (List.replicate n '\n' ++ text) =
      occurrencesFrom (c :: needle) 0 (offset + n) text := by
  induction n generalizing offset with
  | zero => rfl
  | succ n ih =>
      have hnone : (c :: needle).isPrefixOf ('\n' :: (List.replicate n '\n' ++ text)) = false := by
        simp [List.isPrefixOf, hc]
      rw [List.replicate_succ, List.cons_append, occurrencesFrom, hnone, if_neg Bool.false_ne_true,
        ih, Nat.add_assoc, Nat.add_comm n]
      rfl

end Text

/-! ### What a tag says about its text -/

namespace DocTag

/-- The characters from the start of the tag up to the end of a first part of its description. -/
def upTo (tag : DocTag) (part : List Char) : List Char :=
  '@' :: (tag.name.toList ++ part)

/-- The tag stands behind `front`, its description ends in front of `back`, and it knows the
positions of its ends. -/
structure StandsIn (tag : DocTag) (text front back : List Char) : Prop where
  text_eq : text = front ++ (tag.upTo tag.description.toList ++ back)
  name : ∀ c ∈ tag.name.toList, c.isAlphanum
  description : '\n' ∉ tag.description.toList
  start : Text.position? text (Text.byteLength front) = some ⟨tag.line, tag.column⟩
  stop : Text.position? text (Text.byteLength (front ++ tag.upTo tag.description.toList)) =
    some ⟨tag.endLine, tag.endColumn⟩

variable {tag : DocTag} {text front back part more token : List Char} {range : PositionRange}

namespace StandsIn

theorem cut (h : tag.StandsIn text front back) (hpart : tag.description.toList = part ++ more) :
    Text.Cut text (Text.byteLength (front ++ tag.upTo part)) (front ++ tag.upTo part)
      (more ++ back) := by
  refine ⟨?_, rfl⟩
  rw [h.text_eq, hpart]
  simp [upTo]

theorem not_mem_upTo (h : tag.StandsIn text front back)
    (hpart : tag.description.toList = part ++ more) : '\n' ∉ tag.upTo part := by
  have hname : '\n' ∉ tag.name.toList := by
    intro hmem
    exact absurd (h.name '\n' hmem) (by decide)
  have hdescription := h.description
  rw [hpart, List.mem_append, not_or] at hdescription
  simp [upTo, hname, hdescription.1]

/-- The position behind a first part of the description, counted from the start of the tag. -/
theorem position?_eq (h : tag.StandsIn text front back) (hfits : Text.FitsEditor text)
    (hpart : tag.description.toList = part ++ more) :
    Text.position? text (Text.byteLength (front ++ tag.upTo part)) =
      some ⟨tag.line, tag.column + (1 + tag.name.toList.length) + Text.utf16Length part⟩ := by
  have hfree := h.not_mem_upTo hpart
  have hstart := h.start
  have hcut : Text.Cut text (Text.byteLength front) front
      (tag.upTo tag.description.toList ++ back) := ⟨h.text_eq, rfl⟩
  rw [hcut.position?_of_fits hfits, Text.after_eq_mk, Option.some.injEq,
    Position.mk.injEq] at hstart
  have hunits : Text.utf16Length (tag.upTo part) =
      1 + tag.name.toList.length + Text.utf16Length part := by
    rw [upTo, Text.utf16Length_cons, Text.utf16Length_append, Text.utf16Length_of_isAlphanum h.name,
      Nat.add_assoc]
    rfl
  rw [(h.cut hpart).position?_of_fits hfits, Text.after_eq_mk, Text.lastLine_append front hfree,
    List.count_append, List.count_eq_zero_of_not_mem hfree, Text.utf16Length_append, hunits,
    hstart.1, hstart.2]
  simp [Nat.add_assoc]

theorem end_eq (h : tag.StandsIn text front back) (hfits : Text.FitsEditor text) :
    tag.endLine = tag.line ∧ tag.endColumn = tag.column + (1 + tag.name.toList.length) +
      Text.utf16Length tag.description.toList := by
  have hall : tag.description.toList = tag.description.toList ++ [] := (List.append_nil _).symm
  have hstop := h.stop
  rw [h.position?_eq hfits hall] at hstop
  simpa [eq_comm] using hstop

/-- The columns of a tag are not counted past the last one. -/
theorem column_lt (h : tag.StandsIn text front back) (hfits : Text.FitsEditor text)
    (hpart : tag.description.toList = part ++ more) :
    tag.column + (1 + tag.name.toList.length) + Text.utf16Length part < columnLimit :=
  (Text.lt_columnLimit_of_position? (h.position?_eq hfits hpart)).2

end StandsIn

/-- A reference is the first word of the description, and its range is counted from the start of the
tag, as long as no column passes the last one. -/
theorem exists_of_referenceToken? (h : tag.referenceToken? = some (token, range)) :
    ∃ blanks rest, tag.description.toList = blanks ++ (token ++ rest) ∧ token ≠ [] ∧
      (∀ c ∈ token, Text.isBlank c = false) ∧
      (tag.column + (1 + tag.name.toList.length) + Text.utf16Length (blanks ++ token) < columnLimit →
        range = ⟨⟨tag.line, tag.column + (1 + tag.name.toList.length) + Text.utf16Length blanks⟩,
          ⟨tag.line, tag.column + (1 + tag.name.toList.length) +
            Text.utf16Length (blanks ++ token)⟩⟩) := by
  rw [referenceToken?] at h
  split at h
  · cases h
  · rename_i word hne
    cases h
    obtain ⟨rest, hdescription⟩ := Text.exists_firstWord tag.description.toList
    refine ⟨_, rest, hdescription, hne, fun c => Text.isBlank_of_mem_firstWord, ?_⟩
    intro hlimit
    rw [Text.utf16Length_append] at hlimit ⊢
    have hname : tag.column + (1 + tag.name.toList.length) < columnLimit := by omega
    have hblanks : tag.column + (1 + tag.name.toList.length) +
        Text.utf16Length (tag.description.toList.takeWhile Text.isBlank) < columnLimit := by omega
    rw [descriptionColumn, moveColumn_of_lt hname, moveColumn_of_lt hblanks,
      moveColumn_of_lt (by omega), Nat.add_assoc _ _ (Text.utf16Length (Text.firstWord _))]

namespace StandsIn

/-- No end of a word lies between the two characters of a line end. -/
theorem not_splitsLineEnd {blanks rest : List Char} (h : tag.StandsIn text front back)
    (hdescription : tag.description.toList = blanks ++ (token ++ rest)) (hne : token ≠ [])
    (hsolid : ∀ c ∈ token, Text.isBlank c = false) :
    ¬ Text.SplitsLineEnd text (Text.byteLength (front ++ tag.upTo blanks)) ∧
      ¬ Text.SplitsLineEnd text (Text.byteLength (front ++ tag.upTo (blanks ++ token))) := by
  constructor
  · obtain ⟨c, cs, rfl⟩ := List.exists_cons_of_ne_nil hne
    exact Text.not_splitsLineEnd_of_head? (h.cut hdescription) rfl (hsolid c List.mem_cons_self)
  · have hlast : (front ++ tag.upTo (blanks ++ token)).getLast? = some (token.getLast hne) := by
      rw [upTo, ← List.append_assoc, ← List.cons_append, ← List.append_assoc,
        List.getLast?_append, List.getLast?_eq_some_getLast hne]
      rfl
    rw [← List.append_assoc] at hdescription
    exact Text.not_splitsLineEnd_of_getLast? (h.cut hdescription) hlast
      (hsolid _ (List.getLast_mem hne))

theorem slice?_eq {blanks rest : List Char} (h : tag.StandsIn text front back)
    (hdescription : tag.description.toList = blanks ++ (token ++ rest)) :
    Text.slice? text ⟨Text.byteLength (front ++ tag.upTo blanks),
      Text.byteLength (front ++ tag.upTo (blanks ++ token))⟩ = some token := by
  have hupTo : front ++ tag.upTo (blanks ++ token) = (front ++ tag.upTo blanks) ++ token := by
    simp [upTo]
  rw [(h.cut hdescription).text_eq, hupTo, List.append_assoc token]
  exact Text.slice?_append _ token (rest ++ back)

/-- The range of a reference delimits it and lies within its tag. -/
theorem delimits (h : tag.StandsIn text front back) (hfits : Text.FitsEditor text)
    (htoken : tag.referenceToken? = some (token, range)) :
    Text.Delimits text range token ∧ range.start.line = tag.line ∧ range.stop.line = tag.line ∧
      tag.column ≤ range.start.character ∧ range.stop.character ≤ tag.endColumn := by
  obtain ⟨blanks, rest, hdescription, hne, hsolid, hrange⟩ := exists_of_referenceToken? htoken
  have hdescription' : tag.description.toList = (blanks ++ token) ++ rest := by
    rw [hdescription, List.append_assoc]
  obtain ⟨hsplitStart, hsplitStop⟩ := h.not_splitsLineEnd hdescription hne hsolid
  have hpositionStart := h.position?_eq hfits hdescription
  have hpositionStop := h.position?_eq hfits hdescription'
  have hend := (h.end_eq hfits).2
  rw [hdescription', Text.utf16Length_append (blanks ++ token)] at hend
  obtain rfl := hrange (h.column_lt hfits hdescription')
  refine ⟨⟨_, _, Text.offset?_of_not_splitsLineEnd hfits hsplitStart hpositionStart,
    Text.offset?_of_not_splitsLineEnd hfits hsplitStop hpositionStop, by simp [upTo],
    h.slice?_eq hdescription, hpositionStart, hpositionStop⟩, rfl, rfl, ?_, ?_⟩
  · show tag.column ≤ tag.column + (1 + tag.name.toList.length) + Text.utf16Length blanks
    omega
  · show tag.column + (1 + tag.name.toList.length) + Text.utf16Length (blanks ++ token) ≤
      tag.endColumn
    omega

end StandsIn

end DocTag

/-! ### The tags that a comment is scanned for -/

namespace Draft

variable {text front rest : List Char} {stop offset : Nat} {tag : DocTag}

theorem within_isPrefix (n : Nat) (text : List Char) : within n text <+: text := by
  induction text generalizing n with
  | nil => exact List.prefix_refl _
  | cons c text ih =>
      rw [within]
      split
      · exact (List.prefix_cons_inj c).mpr (ih _)
      · exact List.nil_prefix

theorem before_isPrefix (needle text : List Char) : before needle text <+: text := by
  induction text with
  | nil => exact List.prefix_refl _
  | cons c text ih =>
      rw [before]
      split
      · exact List.nil_prefix
      · exact (List.prefix_cons_inj c).mpr ih

theorem descriptionIn_isPrefix (room : Nat) (rest : List Char) :
    descriptionIn room rest <+: rest.takeWhile (· ≠ '\n') := by
  have htrimmed := List.rdropWhile_prefix Text.isBlank
    (before ['*', '/'] (within room (rest.takeWhile (· ≠ '\n'))))
  exact htrimmed.trans ((before_isPrefix _ _).trans (within_isPrefix _ _))

/-- A tag that is found stands where it was looked for. -/
theorem standsIn_of_docTagAt? (hcut : Text.Cut text offset front ('@' :: rest))
    (h : docTagAt? text stop offset rest = some tag) : ∃ back, tag.StandsIn text front back := by
  rw [docTagAt?] at h
  obtain ⟨-, h⟩ := Option.ite_none_left_eq_some.mp h
  obtain ⟨first, hfirst, h⟩ := Option.bind_eq_some_iff.mp h
  obtain ⟨last, hlast, rfl⟩ := Option.map_eq_some_iff.mp h
  have hdescription := descriptionIn_isPrefix
    (stop - (offset + 1 + Text.byteLength (rest.takeWhile Char.isAlphanum)))
    (rest.dropWhile Char.isAlphanum)
  obtain ⟨back, hback⟩ := hdescription.trans <| List.takeWhile_prefix _
  refine ⟨back, ?_, ?_, ?_, ?_, ?_⟩
  · rw [hcut.text_eq]
    simp only [DocTag.upTo, String.toList_ofList, List.cons_append, List.append_assoc, hback,
      List.takeWhile_append_dropWhile]
  · simp only [String.toList_ofList]
    intro c hc
    exact List.mem_takeWhile_imp hc
  · simp only [String.toList_ofList]
    intro hmem
    simpa using List.mem_takeWhile_imp (hdescription.subset hmem)
  · rw [hcut.byteLength_eq]
    exact hfirst
  · rw [Text.byteLength_append, hcut.byteLength_eq]
    simp only [DocTag.upTo, String.toList_ofList, Text.byteLength_cons, Text.byteLength_append]
    rw [← Nat.add_assoc, ← Nat.add_assoc]
    exact hlast

/-- Going on through the comment, every tag that is found stands in the text. -/
theorem standsIn_of_mem_docTagsFrom {previous : Option Char} (hcut : Text.Cut text offset front rest)
    (h : tag ∈ docTagsFrom text stop offset previous rest) :
    ∃ front back, tag.StandsIn text front back := by
  induction rest generalizing offset previous front with
  | nil => cases h
  | cons c rest ih =>
      rw [docTagsFrom] at h
      split at h
      · cases List.mem_append.mp h with
        | inl hown =>
            rw [Option.mem_toList, Option.ite_none_right_eq_some] at hown
            obtain ⟨⟨rfl, -⟩, htag⟩ := hown
            exact ⟨front, standsIn_of_docTagAt? hcut htag⟩
        | inr hlater =>
            have hnext : Text.Cut text (offset + c.utf8Size) (front ++ [c]) rest := by
              refine ⟨by rw [hcut.text_eq, List.append_assoc]; rfl, ?_⟩
              rw [Text.byteLength_append, hcut.byteLength_eq]
              rfl
            exact ih hnext hlater
      · cases h

theorem standsIn_of_mem_docCommentAt {start : Nat} (h : tag ∈ (docCommentAt text start).tags) :
    ∃ front back, tag.StandsIn text front back := by
  rw [docCommentAt, docTags] at h
  cases hdrop : Text.dropBytes? text start with
  | none =>
      simp only [hdrop, Option.getD_none] at h
      cases h
  | some rest =>
      obtain ⟨front, hcut⟩ := Text.exists_front_of_dropBytes? hdrop
      simp only [hdrop, Option.getD_some] at h
      exact standsIn_of_mem_docTagsFrom hcut h

/-! ### Adding a comment -/

theorem run_textOf {d : Draft} {u : UnitId} {unit : UnitSnapshot}
    (h : d.units[u.index]? = some unit) :
    (textOf u).run d = .ok ((unit.text.getD "").toList, d) :=
  run_bind_eq_ok.mpr ⟨unit, d, run_unitAt_of_eq_some h, rfl⟩

theorem run_docComment {d : Draft} {u : UnitId} {unit : UnitSnapshot} {nth start : Nat}
    (hunit : d.units[u.index]? = some unit)
    (hstart : (Text.occurrences ['/', '*', '*'] (unit.text.getD "").toList)[nth]? = some start) :
    (docComment u nth).run d = .ok ((), { d with
      units := d.units.modify u.index fun unit' => { unit' with
        docComments := unit'.docComments ++ [docCommentAt (unit.text.getD "").toList start] } }) := by
  refine run_bind_eq_ok.mpr ⟨(unit.text.getD "").toList, d, run_textOf hunit, ?_⟩
  rw [hstart]
  exact run_bind_eq_ok.mpr ⟨start, d, rfl, run_modifyUnit hunit _⟩

theorem run_docComment_of_none {d : Draft} {u : UnitId} {unit : UnitSnapshot} {nth : Nat}
    (hunit : d.units[u.index]? = some unit)
    (hnone : (Text.occurrences ['/', '*', '*'] (unit.text.getD "").toList)[nth]? = none) :
    (docComment u nth).run d = .error (.docCommentNotFound nth) := by
  rw [docComment, StateT.run_bind, run_textOf hunit]
  simp only [bind, Except.bind, hnone]
  rfl

/-- Each comment of a unit can be added to it, and nothing else. Every tag of the comment lies on
one line, and where its description starts with a reference, the range of the reference delimits it
in the text and lies within the tag. -/
theorem docComment_delimits_references {d : Draft} {u : UnitId} {unit : UnitSnapshot}
    {text : List Char} (hunit : d.units[u.index]? = some unit)
    (htext : (unit.text.getD "").toList = text) (hfits : Text.FitsEditor text) (nth : Nat) :
    (∀ start, (Text.occurrences ['/', '*', '*'] text)[nth]? = some start →
      ∃ d' comment, (docComment u nth).run d = .ok ((), d') ∧
        d'.units[u.index]? = some { unit with docComments := unit.docComments ++ [comment] } ∧
        comment.span.start = start ∧
        ∀ tag ∈ comment.tags, tag.endLine = tag.line ∧
          ∀ token range, tag.referenceToken? = some (token, range) →
            Text.Delimits text range token ∧ range.start.line = tag.line ∧
              range.stop.line = tag.line ∧ tag.column ≤ range.start.character ∧
              range.stop.character ≤ tag.endColumn) ∧
      ((Text.occurrences ['/', '*', '*'] text)[nth]? = none →
        (docComment u nth).run d = .error (.docCommentNotFound nth)) := by
  subst htext
  refine ⟨?_, run_docComment_of_none hunit⟩
  intro start hstart
  refine ⟨_, docCommentAt (unit.text.getD "").toList start, run_docComment hunit hstart, ?_, rfl, ?_⟩
  · simp [hunit]
  · intro tag htag
    obtain ⟨front, back, hstands⟩ := standsIn_of_mem_docCommentAt htag
    exact ⟨(hstands.end_eq hfits).1, fun token range => hstands.delimits hfits⟩

end Draft

namespace DocSample

/-! A tag behind a line end of two characters, a tab and a character outside the basic plane. Two
kinds of blanks stand around its reference, which holds such a character too. -/

def text : String := "/** 😀 @see\r\n *\t@see  игра.😀#x()\t… */ class A \x7b\x7d"

def unit : UnitSnapshot :=
  { path := ⟨"/p/A.as"⟩, kind := .script, text := some text, ast := none, scope := .ready [],
    rootDefinition := none, docComments := [], markup := none }

def draft : Draft := { units := [unit] }

def tags : List DocTag :=
  [⟨"see", "", 0, 7, 0, 11⟩, ⟨"see", "  игра.😀#x()\t…", 1, 3, 1, 22⟩]

theorem fitsEditor : Text.FitsEditor text.toList :=
  Text.fitsEditor_of_utf16Length (by decide +kernel)

theorem run_docComment :
    ((Draft.docComment ⟨0⟩ 0).run draft).toOption.map
      (fun result => result.2.units.map (·.docComments)) = some [[⟨⟨0, 50⟩, tags⟩]] := by
  decide +kernel

end DocSample

theorem Draft.docComment_delimits_references_of_sample :
    ∃ (d' : Draft) (comment : DocComment), (docComment ⟨0⟩ 0).run DocSample.draft = .ok ((), d') ∧
      comment.tags = DocSample.tags ∧
      Text.Delimits DocSample.text.toList ⟨⟨1, 9⟩, ⟨1, 20⟩⟩ "игра.😀#x()".toList := by
  obtain ⟨d', comment, hrun, hunit, -, htags⟩ :=
    (docComment_delimits_references (d := DocSample.draft) (u := ⟨0⟩) rfl rfl
      DocSample.fitsEditor 0).1 0 (by decide +kernel)
  have hadded := DocSample.run_docComment
  rw [hrun] at hadded
  have hcomment : comment = ⟨⟨0, 50⟩, DocSample.tags⟩ := by
    have hunits : d'.units.map (·.docComments) = [[⟨⟨0, 50⟩, DocSample.tags⟩]] :=
      Option.some.inj hadded
    have hfirst := congrArg (·[0]?) hunits
    simp only [List.getElem?_map] at hfirst
    rw [hunit] at hfirst
    simpa [DocSample.unit] using hfirst
  refine ⟨d', comment, hrun, by rw [hcomment], ?_⟩
  have htag : (⟨"see", "  игра.😀#x()\t…", 1, 3, 1, 22⟩ : DocTag) ∈ comment.tags := by
    rw [hcomment]
    exact List.mem_cons_of_mem _ List.mem_cons_self
  exact ((htags _ htag).2 _ _ (by decide +kernel)).1

/-! ### Behind more lines than can be counted -/

namespace Draft

variable {text moved : List Char} {n : Nat}

/-- Where the positions of a text come back behind more of them, so do its tags. -/
theorem docTagAt?_of_moved
    (hmoved : ∀ offset, Text.position? moved (n + offset) = Text.position? text offset)
    (stop offset : Nat) (rest : List Char) :
    docTagAt? moved (n + stop) (n + offset) rest = docTagAt? text stop offset rest := by
  simp only [docTagAt?, Nat.add_assoc n, Nat.add_sub_add_left, hmoved]

theorem docTagsFrom_of_moved
    (hmoved : ∀ offset, Text.position? moved (n + offset) = Text.position? text offset)
    (stop offset : Nat) (previous : Option Char) (rest : List Char) :
    docTagsFrom moved (n + stop) (n + offset) previous rest =
      docTagsFrom text stop offset previous rest := by
  induction rest generalizing offset previous with
  | nil => rfl
  | cons c rest ih =>
      simp only [docTagsFrom, Nat.add_lt_add_iff_left, docTagAt?_of_moved hmoved, Nat.add_assoc n,
        ih]

/-- The tags of a comment that comes to an end. -/
theorem tags_docCommentAt {front rest : List Char} {start length : Nat}
    (hcut : Text.Cut text start front rest) (hfind : Text.find? ['*', '/'] rest = some length) :
    (docCommentAt text start).tags =
      docTagsFrom text (start + (length + 2)) start (Text.charBefore? text start) rest := by
  simp only [docCommentAt, docTags, hcut.dropBytes?_eq, Option.getD_some, hfind, Nat.add_assoc]

/-- What stands in front of a text is only looked at if it starts with a tag. -/
theorem docTagsFrom_cons_of_ne {c : Char} {rest : List Char} {stop offset : Nat} (hc : c ≠ '@')
    (hstop : offset < stop) (previous : Option Char) :
    docTagsFrom text stop offset previous (c :: rest) =
      docTagsFrom text stop (offset + c.utf8Size) (some c) rest := by
  simp [docTagsFrom, hc, hstop]

end Draft

namespace FarDocSample

/-! The comment of a class, with a line feed in front of it for each line that can be counted. -/

def comment : List Char := '/' :: "** @see A */".toList

noncomputable def text : String := String.ofList (Text.lineFeeds ++ comment)

noncomputable def unit : UnitSnapshot :=
  { path := ⟨"/p/A.as"⟩, kind := .script, text := some text, ast := none, scope := .ready [],
    rootDefinition := none, docComments := [], markup := none }

noncomputable def draft : Draft := { units := [unit] }

/-- The tag as it would be found on the first line. -/
def tag : DocTag := ⟨"see", " A", 0, 4, 0, 10⟩

def range : PositionRange := ⟨⟨0, 9⟩, ⟨0, 10⟩⟩

theorem toList_text : text.toList = Text.lineFeeds ++ comment :=
  String.toList_ofList

theorem occurrences_text :
    (Text.occurrences ['/', '*', '*'] text.toList)[0]? = some columnLimit := by
  rw [Text.occurrences, toList_text, Text.lineFeeds,
    Text.occurrencesFrom_replicate_lineFeed (by decide), Nat.zero_add]
  rfl

theorem tags_eq : (Draft.docCommentAt text.toList columnLimit).tags = [tag] := by
  have hcut : Text.Cut text.toList columnLimit Text.lineFeeds comment :=
    ⟨toList_text, Text.byteLength_lineFeeds⟩
  have hfind : Text.find? ['*', '/'] comment = some 11 := by decide +kernel
  have hmoved (offset : Nat) :
      Text.position? text.toList (columnLimit + offset) = Text.position? comment offset := by
    rw [toList_text]
    exact Text.position?_behind_lineFeeds comment offset
  have htags (previous : Option Char) :
      Draft.docTagsFrom comment (11 + 2) 0 previous comment = [tag] := by
    refine (Draft.docTagsFrom_cons_of_ne (by decide) (by decide) previous).trans ?_
    decide +kernel
  rw [Draft.tags_docCommentAt hcut hfind]
  exact (Draft.docTagsFrom_of_moved hmoved _ 0 _ comment).trans (htags _)

/-- Its lines are short: only the comment has characters other than line feeds. -/
theorem utf16Length_line_lt {above line below : List Char}
    (htext : text.toList = above ++ (line ++ below)) (hline : '\n' ∉ line) :
    Text.utf16Length line < columnLimit := by
  have hsub : line.Sublist text.toList := by
    rw [htext]
    exact (List.sublist_append_left line below).trans (List.sublist_append_right above _)
  have hfeeds : Text.lineFeeds.filter (· ≠ '\n') = [] := by
    rw [List.filter_eq_nil_iff]
    intro c hc
    simp [Text.eq_of_mem_lineFeeds hc]
  have hself : line.filter (· ≠ '\n') = line := by
    rw [List.filter_eq_self]
    intro c hc
    simpa using ne_of_mem_of_not_mem hc hline
  have hkept := hsub.filter (· ≠ '\n')
  rw [hself, toList_text, List.filter_append, hfeeds, List.nil_append] at hkept
  exact Nat.lt_of_le_of_lt (Text.utf16Length_le_of_sublist hkept) (by decide)

end FarDocSample

/-- All lines of the text are short, and its comment is added. But the tag claims to stand on the
first line, where its range leads to the start of the text and not to the reference. -/
theorem Draft.docComment_misplaced_behind_lineFeeds :
    (∀ above line below, FarDocSample.text.toList = above ++ (line ++ below) → '\n' ∉ line →
        Text.utf16Length line < columnLimit) ∧
      ∃ d' comment, (docComment ⟨0⟩ 0).run FarDocSample.draft = .ok ((), d') ∧
        d'.units = [{ FarDocSample.unit with docComments := [comment] }] ∧
        comment.tags = [FarDocSample.tag] ∧
        FarDocSample.tag.referenceToken? = some (['A'], FarDocSample.range) ∧
        ¬ Text.Delimits FarDocSample.text.toList FarDocSample.range ['A'] := by
  refine ⟨fun above line below => FarDocSample.utf16Length_line_lt, _, _,
    run_docComment rfl FarDocSample.occurrences_text, rfl, FarDocSample.tags_eq, rfl, ?_⟩
  rintro ⟨start, stop, hstart, hstop, -, hslice, -, -⟩
  rw [FarDocSample.toList_text] at hstart hstop hslice
  obtain rfl : 0 = start := Option.some.inj ((Text.offset?_lineFeeds _ 9).symm.trans hstart)
  obtain rfl : 0 = stop := Option.some.inj ((Text.offset?_lineFeeds _ 10).symm.trans hstop)
  cases (Text.slice?_append [] [] _).symm.trans hslice

end SymbolNav
