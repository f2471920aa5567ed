import SymbolNav.Proofs.Text.Boundaries

/-!
# Positions and offsets lead to each other

The position of a boundary is the one behind the characters in front of it: as many lines down as
there are line feeds among them, and as many code units to the right as the characters behind the
last line feed have. Places behind more characters are later, and the offset of the place of a
boundary is that boundary, except between a carriage return and the line feed that ends its line,
where no column leads to.

Lines and columns are stored in 32 bits. `FitsEditor` says of a text that this loses nothing, and of
such a text the position of a boundary is its place.
-/

namespace SymbolNav

namespace Position

/-- The position one character further on. -/
def next (here : Position) (c : Char) : Position :=
  if c = '\n' then ⟨here.line + 1, 0⟩ else ⟨here.line, here.character + Text.utf16Size c⟩

/-- The position behind a text that starts at `here`. -/
def after (here : Position) (text : List Char) : Position :=
  text.foldl next here

/-- Positions are ordered by line, then by column. -/
instance : LT Position :=
  ⟨fun p q => p.line < q.line ∨ p.line = q.line ∧ p.character < q.character⟩

instance : LE Position :=
  ⟨fun p q => p.line < q.line ∨ p.line = q.line ∧ p.character ≤ q.character⟩

theorem lt_iff {p q : Position} :
    p < q ↔ p.line < q.line ∨ p.line = q.line ∧ p.character < q.character := Iff.rfl

theorem le_iff {p q : Position} :
    p ≤ q ↔ p.line < q.line ∨ p.line = q.line ∧ p.character ≤ q.character := Iff.rfl

theorem le_refl (p : Position) : p ≤ p := by
  rw [le_iff]
  omega

@[simp] theorem after_nil (here : Position) : here.after [] = here := rfl

@[simp] theorem after_cons (here : Position) (c : Char) (text : List Char) :
    here.after (c :: text) = (here.next c).after text := rfl

theorem after_append (here : Position) (s t : List Char) :
    here.after (s ++ t) = (here.after s).after t :=
  List.foldl_append

theorem lt_next (here : Position) (c : Char) : here < here.next c := by
  rw [lt_iff, next]
  split
  · exact Or.inl (Nat.lt_succ_self _)
  · exact Or.inr ⟨rfl, Nat.lt_add_of_pos_right (Text.utf16Size_pos c)⟩

theorem le_after (here : Position) (text : List Char) : here ≤ here.after text := by
  induction text generalizing here with
  | nil => exact le_refl here
  | cons c text ih =>
      have hnext := lt_next here c
      have hrest := ih (here.next c)
      rw [lt_iff] at hnext
      rw [le_iff] at hrest
      rw [after_cons, le_iff]
      omega

theorem lt_after (here : Position) {text : List Char} (h : text ≠ []) : here < here.after text := by
  cases text with
  | nil => exact absurd rfl h
  | cons c text =>
      have hnext := lt_next here c
      have hrest := le_after (here.next c) text
      rw [lt_iff] at hnext
      rw [le_iff] at hrest
      rw [after_cons, lt_iff]
      omega

end Position

namespace Text

/-- The characters behind the last line feed. -/
def lastLine : List Char → List Char
  | [] => []
  | c :: text => if '\n' ∈ c :: text then lastLine text else c :: text

theorem lastLine_of_not_mem {text : List Char} (h : '\n' ∉ text) : lastLine text = text := by
  cases text with
  | nil => rfl
  | cons c text => rw [lastLine, if_neg h]

theorem not_mem_lastLine (text : List Char) : '\n' ∉ lastLine text := by
  fun_induction lastLine text with
  | case1 => exact List.not_mem_nil
  | case2 _ _ _ ih => exact ih
  | case3 _ _ h => exact h

/-- The characters in front of the last line end with its line feed. -/
theorem exists_above_lastLine (text : List Char) :
    ∃ above, text = above ++ lastLine text ∧ ∀ c, above.getLast? = some c → c = '\n' := by
  fun_induction lastLine text with
  | case1 => exact ⟨[], rfl, by simp⟩
  | case2 c text hmem ih =>
      obtain ⟨above, htext, hlast⟩ := ih
      refine ⟨c :: above, congrArg (c :: ·) htext, ?_⟩
      intro d hd
      rw [List.getLast?_cons] at hd
      cases habove : above.getLast? with
      | some e => exact hlast d (by simpa [habove] using hd)
      | none =>
          -- Nothing stands above, so the line feed is the first character.
          rw [List.getLast?_eq_none_iff.mp habove, List.nil_append] at htext
          have hrest : '\n' ∉ text := htext ▸ not_mem_lastLine text
          have hc : '\n' = c := (List.mem_cons.mp hmem).resolve_right hrest
          rw [habove] at hd
          exact (Option.some.inj hd).symm.trans hc.symm
  | case3 c text hmem => exact ⟨[], rfl, by simp⟩

/-- Line and column of the place behind a text. The text before it on its first line matters only
if the text holds no line feed. -/
theorem after_eq (here : Position) (text : List Char) :
    here.after text = ⟨here.line + text.count '\n',
      (if '\n' ∈ text then 0 else here.character) + utf16Length (lastLine text)⟩ := by
  induction text generalizing here with
  | nil => simp [lastLine]
  | cons c text ih =>
      rw [Position.after_cons, ih, Position.next]
      by_cases hc : c = '\n'
      · subst hc
        simp [lastLine, Nat.add_assoc, Nat.add_comm 1]
      · by_cases htext : '\n' ∈ text
        · simp [lastLine, hc, htext]
        · simp [lastLine, hc, Ne.symm hc, htext, lastLine_of_not_mem htext, Nat.add_assoc]

/-- The walk to a place behind the front goes on from the end of the front. -/
theorem positionFrom?_append (here : Position) (front back : List Char) (offset : Nat) :
    positionFrom? here (front ++ back) (byteLength front + offset) =
      positionFrom? (here.after front) back offset := by
  induction front generalizing here with
  | nil => simp
  | cons c front ih =>
      have hc := c.utf8Size_pos
      obtain ⟨n, hn⟩ : ∃ n, c.utf8Size + byteLength front + offset = n + 1 :=
        ⟨c.utf8Size + byteLength front + offset - 1, by omega⟩
      have hrest : n + 1 - c.utf8Size = byteLength front + offset := by omega
      rw [List.cons_append, byteLength_cons, hn, positionFrom?, if_pos (by omega), hrest, ih]
      rfl

@[simp] theorem positionFrom?_zero (here : Position) (text : List Char) :
    positionFrom? here text 0 = some here := by
  cases text <;> rfl

/-- As many lines down as the front has line feeds, the rest of the text starts with the last line
of the front. -/
theorem dropLines?_append (front back : List Char) :
    dropLines? (front ++ back) (front.count '\n') = some (lastLine front ++ back) := by
  induction front with
  | nil => simp [dropLines?, lastLine]
  | cons c front ih =>
      by_cases hc : c = '\n'
      · subst hc
        simpa [dropLines?, lastLine] using ih
      · by_cases hfront : '\n' ∈ front
        · obtain ⟨n, hn⟩ : ∃ n, front.count '\n' = n + 1 :=
            ⟨front.count '\n' - 1, by have := List.count_pos_iff.mpr hfront; omega⟩
          rw [hn] at ih
          simpa [dropLines?, lastLine, hc, hfront, hn] using ih
        · have hcount : (c :: front).count '\n' = 0 :=
            List.count_eq_zero_of_not_mem (by simp [Ne.symm hc, hfront])
          rw [hcount, lastLine_of_not_mem (by simp [Ne.symm hc, hfront])]
          simp [dropLines?]

/-- The offset lies between a carriage return and the line feed right behind it. -/
def SplitsLineEnd (text : List Char) (offset : Nat) : Prop :=
  ∃ front back, Cut text offset (front ++ ['\r']) ('\n' :: back)

theorem splitsLineEnd_iff {text : List Char} {offset : Nat} :
    SplitsLineEnd text offset ↔ (takeBytes? text offset).bind (·.getLast?) = some '\r' ∧
      (dropBytes? text offset).bind (·.head?) = some '\n' := by
  constructor
  · rintro ⟨front, back, hcut⟩
    simp [hcut.takeBytes?_eq, hcut.dropBytes?_eq]
  · rintro ⟨hfront, hback⟩
    obtain ⟨back, hdrop, hhead⟩ := Option.bind_eq_some_iff.mp hback
    obtain ⟨front, hcut⟩ := exists_front_of_dropBytes? hdrop
    rw [hcut.takeBytes?_eq, Option.bind_some] at hfront
    obtain ⟨line, rfl⟩ := List.getLast?_eq_some_iff.mp hfront
    obtain ⟨rest, rfl⟩ := List.head?_eq_some_iff.mp hhead
    exact ⟨line, rest, hcut⟩

instance (text : List Char) (offset : Nat) : Decidable (SplitsLineEnd text offset) :=
  decidable_of_iff _ splitsLineEnd_iff.symm

/-- The column behind the first characters of a line leads back behind them, unless the line ends
right there with a carriage return that belongs to the line feed. -/
theorem columnOffset_firstLine {line back : List Char} (hline : '\n' ∉ line)
    (hend : ∀ front rest, line = front ++ ['\r'] → back ≠ '\n' :: rest) :
    columnOffset (firstLine (line ++ back)) (utf16Length line) = byteLength line := by
  induction line with
  | nil => cases h : firstLine back <;> simp [columnOffset, h]
  | cons c line ih =>
      obtain ⟨hc, htail⟩ : c ≠ '\n' ∧ '\n' ∉ line := by simpa [eq_comm] using hline
      have hrest : ¬ (c = '\r' ∧ (line ++ back).head? = some '\n') := by
        rintro ⟨rfl, hhead⟩
        cases line with
        | nil =>
            obtain ⟨rest, hback⟩ := List.head?_eq_some_iff.mp hhead
            exact hend [] rest rfl hback
        | cons d line =>
            obtain rfl : d = '\n' := by simpa using hhead
            exact htail List.mem_cons_self
      have hpos := utf16Size_pos c
      obtain ⟨n, hn⟩ : ∃ n, utf16Size c + utf16Length line = n + 1 :=
        ⟨utf16Size c + utf16Length line - 1, by omega⟩
      have hcolumn : n + 1 - utf16Size c = utf16Length line := by omega
      rw [List.cons_append, firstLine, if_neg hc, if_neg hrest, utf16Length_cons, hn, columnOffset,
        hcolumn, byteLength_cons, ih htail]
      intro front rest hfront
      exact hend (c :: front) rest (congrArg (c :: ·) hfront)

/-- There are few enough lines, and few enough code units in a line, to be counted in 32 bits. -/
structure FitsEditor (text : List Char) : Prop where
  lines : text.count '\n' + 1 < columnLimit
  columns : ∀ {above line below : List Char}, text = above ++ (line ++ below) → '\n' ∉ line →
    utf16Length line < columnLimit

theorem count_lineFeed_le_utf16Length (text : List Char) :
    text.count '\n' ≤ utf16Length text := by
  induction text with
  | nil => exact Nat.le_refl 0
  | cons c text ih =>
      have hc := utf16Size_pos c
      rw [List.count_cons, utf16Length_cons]
      split <;> omega

/-- A text that is short as a whole fits. -/
theorem fitsEditor_of_utf16Length {text : List Char} (h : utf16Length text + 1 < columnLimit) :
    FitsEditor text where
  lines := by
    have hle := count_lineFeed_le_utf16Length text
    omega
  columns := by
    intro above line below htext _
    rw [htext, utf16Length_append, utf16Length_append] at h
    omega

namespace Cut

variable {text front back front' back' : List Char} {offset offset' : Nat}

theorem position?_eq (h : Cut text offset front back) :
    position? text offset = some (Position.after ⟨0, 0⟩ front).wrapped := by
  obtain ⟨rfl, rfl⟩ := h
  have hwalk := positionFrom?_append ⟨0, 0⟩ front back 0
  rw [Nat.add_zero, positionFrom?_zero] at hwalk
  rw [position?, hwalk]
  rfl

/-- Where nothing is lost, the position of a boundary is its place. -/
theorem position?_of_fits (h : Cut text offset front back) (hfits : FitsEditor text) :
    position? text offset = some (Position.after ⟨0, 0⟩ front) := by
  obtain ⟨above, hfront, -⟩ := exists_above_lastLine front
  have htext : text = above ++ (lastLine front ++ back) := by
    rw [← List.append_assoc, ← hfront, h.text_eq]
  have hlines := hfits.lines
  rw [h.text_eq, List.count_append] at hlines
  have hcolumns := hfits.columns htext (not_mem_lastLine front)
  rw [h.position?_eq, Position.wrapped_of_lt]
  · simp only [after_eq, Nat.zero_add]
    omega
  · simp only [after_eq, ite_self, Nat.zero_add]
    exact hcolumns

theorem after_le_after (h : Cut text offset front back) (h' : Cut text offset' front' back')
    (hle : offset ≤ offset') : Position.after ⟨0, 0⟩ front ≤ Position.after ⟨0, 0⟩ front' := by
  obtain ⟨mid, rfl, -, -⟩ := h.exists_between h' hle
  rw [Position.after_append]
  exact Position.le_after _ _

/-- Later boundaries have later positions. -/
theorem after_lt_after (h : Cut text offset front back) (h' : Cut text offset' front' back')
    (hlt : offset < offset') : Position.after ⟨0, 0⟩ front < Position.after ⟨0, 0⟩ front' := by
  obtain ⟨mid, rfl, -, hmid⟩ := h.exists_between h' (Nat.le_of_lt hlt)
  rw [Position.after_append]
  apply Position.lt_after
  rintro rfl
  rw [byteLength_nil] at hmid
  omega

/-- The position of a boundary leads back to it, unless it splits a line end. -/
theorem offset?_after (h : Cut text offset front back) (hsplit : ¬ SplitsLineEnd text offset) :
    offset? text (Position.after ⟨0, 0⟩ front) = some offset := by
  obtain ⟨lines, hlines, -⟩ := exists_above_lastLine front
  have hend : ∀ start rest, lastLine front = start ++ ['\r'] → back ≠ '\n' :: rest := by
    intro start rest hstart hback
    have hfront : front = lines ++ start ++ ['\r'] := by
      rw [List.append_assoc, ← hstart]
      exact hlines
    exact hsplit ⟨lines ++ start, rest, by rw [← hfront, ← hback]; exact h⟩
  have hbytes := congrArg byteLength hlines
  have hline := columnOffset_firstLine (not_mem_lastLine front) hend
  have hoffset := h.byteLength_eq
  rw [byteLength_append] at hbytes
  rw [after_eq, offset?, h.text_eq]
  simp only [Nat.zero_add, ite_self, dropLines?_append, Option.map_some, hline, byteLength_append,
    Option.some.injEq]
  omega

end Cut

/-! ### Behind more lines than can be counted -/

/-- A line feed for each line that can be counted. -/
@[irreducible] noncomputable def lineFeeds : List Char :=
  List.replicate columnLimit '\n'

theorem eq_of_mem_lineFeeds {c : Char} (h : c ∈ lineFeeds) : c = '\n' := by
  rw [lineFeeds] at h
  exact List.eq_of_mem_replicate h

theorem byteLength_replicate_lineFeed (n : Nat) : byteLength (List.replicate n '\n') = n := by
  induction n with
  | zero => rfl
  | succ n ih =>
      rw [List.replicate_succ, byteLength_cons, ih, Nat.add_comm]
      rfl

theorem byteLength_lineFeeds : byteLength lineFeeds = columnLimit := by
  rw [lineFeeds]
  exact byteLength_replicate_lineFeed columnLimit

theorem after_replicate_lineFeed (here : Position) (n : Nat) :
    here.after (List.replicate n '\n') = ⟨here.line + n, if n = 0 then here.character else 0⟩ := by
  induction n generalizing here with
  | zero => rfl
  | succ n ih =>
      rw [List.replicate_succ, Position.after_cons, ih, Position.next, if_pos rfl]
      simp [Nat.add_assoc, Nat.add_comm 1]

theorem positionFrom?_add_lines (lines : Nat) (here : Position) (text : List Char) (offset : Nat) :
    positionFrom? ⟨here.line + lines, here.character⟩ text offset =
      (positionFrom? here text offset).map fun p => ⟨p.line + lines, p.character⟩ := by
  induction text generalizing here offset with
  | nil => cases offset <;> rfl
  | cons c text ih =>
      cases offset with
      | zero => rfl
      | succ offset =>
          rw [positionFrom?, positionFrom?]
          split
          · rw [← ih]
            split
            · rw [Nat.add_right_comm]
            · rfl
          · rfl

theorem position?_replicate_lineFeed (n : Nat) (text : List Char) (offset : Nat) :
    position? (List.replicate n '\n' ++ text) (n + offset) =
      (positionFrom? ⟨0, 0⟩ text offset).map fun p =>
        Position.wrapped ⟨p.line + n, p.character⟩ := by
  have hwalk := positionFrom?_append ⟨0, 0⟩ (List.replicate n '\n') text offset
  rw [byteLength_replicate_lineFeed, after_replicate_lineFeed, ite_self,
    positionFrom?_add_lines n ⟨0, 0⟩] at hwalk
  rw [position?, hwalk, Option.map_map]
  rfl

/-- So many lines further down, a position looks as it does without them. -/
theorem position?_behind_lineFeeds (text : List Char) (offset : Nat) :
    position? (lineFeeds ++ text) (columnLimit + offset) = position? text offset := by
  have hsame (p : Position) :
      Position.wrapped ⟨p.line + columnLimit, p.character⟩ = p.wrapped := by
    rw [Position.wrapped, Position.wrapped, Nat.add_mod_right]
  rw [lineFeeds, position?_replicate_lineFeed, funext hsame, position?]

theorem offset?_cons_lineFeed (text : List Char) (column : Nat) :
    offset? ('\n' :: text) ⟨0, column⟩ = some 0 := by
  rw [offset?, dropLines?, Option.map_some, firstLine, if_pos rfl, columnOffset, Nat.sub_self]

/-- The first line is empty, whatever stands behind them. -/
theorem offset?_lineFeeds (text : List Char) (column : Nat) :
    offset? (lineFeeds ++ text) ⟨0, column⟩ = some 0 := by
  obtain ⟨n, hn⟩ : ∃ n, columnLimit = n + 1 := Nat.exists_eq_add_one.mpr (by decide)
  rw [lineFeeds, hn, List.replicate_succ]
  exact offset?_cons_lineFeed _ column

end Text

namespace FarSample

/-! A letter behind a line feed for each line that can be counted. -/

noncomputable def text : String := String.ofList (Text.lineFeeds ++ ['a'])

theorem toList_text : text.toList = Text.lineFeeds ++ ['a'] :=
  String.toList_ofList

theorem cut_start : Text.Cut text.toList columnLimit Text.lineFeeds ['a'] :=
  ⟨toList_text, Text.byteLength_lineFeeds⟩

theorem isBoundary_start : Text.IsBoundary text.toList columnLimit :=
  Text.isBoundary_iff.mpr ⟨_, _, cut_start⟩

theorem not_splitsLineEnd_start : ¬ Text.SplitsLineEnd text.toList columnLimit := by
  rw [Text.splitsLineEnd_iff, cut_start.dropBytes?_eq]
  rintro ⟨-, ⟨⟩⟩

/-- The letter seems to stand at the start of the text. -/
theorem position?_start : Text.position? text.toList columnLimit = some ⟨0, 0⟩ := by
  rw [toList_text]
  exact Text.position?_behind_lineFeeds ['a'] 0

end FarSample

end SymbolNav
