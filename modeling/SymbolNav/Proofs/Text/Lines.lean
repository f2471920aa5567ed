import Mathlib.Data.Set.Basic
import Mathlib.Order.Bounds.Defs
import SymbolNav.Proofs.Text.Positions

/-!
# Columns lead to the least boundary

`IsLine` says what a line of a text is without walking through the text: what stands above it, the
line itself, and what stands below it, which starts with the end of the line. The offset of a
position is the first boundary of its line from which on the column is reached. So a column between
two boundaries leads to the later one, and a column past the last boundary to the end of the line.
Later positions have later offsets.
-/

namespace SymbolNav.Text

/-- The text consists of what stands above a line, the line, and what stands below it, where a line
feed and a carriage return right in front of it are no part of the line. -/
structure IsLine (text : List Char) (number : Nat) (above line below : List Char) : Prop where
  text_eq : text = above ++ (line ++ below)
  number_eq : above.count '\n' = number
  starts : ∀ c, above.getLast? = some c → c = '\n'
  whole : '\n' ∉ line
  ends : below = [] ∨ (∃ rest, below = '\r' :: '\n' :: rest) ∨
    (∃ rest, below = '\n' :: rest) ∧ line.getLast? ≠ some '\r'

/-- The offset is a boundary with so many UTF-16 code units between it and the last line feed. -/
def InColumn (text : List Char) (offset column : Nat) : Prop :=
  ∃ front back, Cut text offset front back ∧ utf16Length (lastLine front) = column

/-- The boundaries from `start` to `stop` that reach a column. -/
def reaching (text : List Char) (start stop column : Nat) : Set Nat :=
  {offset | start ≤ offset ∧ offset ≤ stop ∧ ∃ reached, InColumn text offset reached ∧
    column ≤ reached}

variable {text above line below front back : List Char} {number column offset : Nat}

/-! ### Taking a text apart into lines -/

theorem lastLine_append (above : List Char) (h : '\n' ∉ line) :
    lastLine (above ++ line) = lastLine above ++ line := by
  induction above with
  | nil => exact lastLine_of_not_mem h
  | cons c above ih =>
      by_cases hc : '\n' ∈ c :: above
      · have hall : '\n' ∈ c :: (above ++ line) := List.mem_append_left line hc
        rw [List.cons_append, lastLine, if_pos hall, lastLine, if_pos hc, ih]
      · rw [lastLine_of_not_mem hc, lastLine_of_not_mem]
        intro hmem
        exact (List.mem_append.mp hmem).elim hc h

theorem lastLine_eq_nil (h : ∀ c, above.getLast? = some c → c = '\n') : lastLine above = [] := by
  obtain ⟨lines, hlines, -⟩ := exists_above_lastLine above
  cases hlast : (lastLine above).getLast? with
  | none => exact List.getLast?_eq_none_iff.mp hlast
  | some c =>
      have hc : above.getLast? = some c := by
        rw [hlines, List.getLast?_append, hlast]
        rfl
      rw [h c hc] at hlast
      exact absurd (List.mem_of_getLast? hlast) (not_mem_lastLine above)

/-- Every number up to that of the line feeds has the text from its line on. -/
theorem exists_above (text : List Char) (h : number ≤ text.count '\n') :
    ∃ above rest, text = above ++ rest ∧ above.count '\n' = number ∧
      ∀ c, above.getLast? = some c → c = '\n' := by
  induction text generalizing number with
  | nil => exact ⟨[], [], rfl, (Nat.le_zero.mp h).symm, by simp⟩
  | cons c text ih =>
      cases number with
      | zero => exact ⟨[], c :: text, rfl, rfl, by simp⟩
      | succ number =>
          by_cases hc : c = '\n'
          · subst hc
            have hle : number ≤ text.count '\n' := by simpa using h
            obtain ⟨above, rest, rfl, hnumber, hlast⟩ := ih hle
            refine ⟨'\n' :: above, rest, rfl, by simp [hnumber], ?_⟩
            intro d hd
            rw [List.getLast?_cons] at hd
            cases hlast' : above.getLast? with
            | none => simpa [hlast', eq_comm] using hd
            | some e => exact hlast d (by simpa [hlast'] using hd)
          · have hle : number + 1 ≤ text.count '\n' := by simpa [hc] using h
            obtain ⟨above, rest, rfl, hnumber, hlast⟩ := ih hle
            refine ⟨c :: above, rest, rfl, by simp [hc, hnumber], ?_⟩
            intro d hd
            rw [List.getLast?_cons] at hd
            cases hlast' : above.getLast? with
            | none =>
                rw [List.getLast?_eq_none_iff.mp hlast'] at hnumber
                cases hnumber
            | some e => exact hlast d (by simpa [hlast'] using hd)

/-- The first line is followed by its end. -/
theorem exists_below (rest : List Char) :
    ∃ below, rest = firstLine rest ++ below ∧ '\n' ∉ firstLine rest ∧
      (below = [] ∨ (∃ more, below = '\r' :: '\n' :: more) ∨
        (∃ more, below = '\n' :: more) ∧ (firstLine rest).getLast? ≠ some '\r') := by
  fun_induction firstLine rest with
  | case1 => exact ⟨[], rfl, List.not_mem_nil, Or.inl rfl⟩
  | case2 text => exact ⟨'\n' :: text, rfl, List.not_mem_nil, Or.inr (Or.inr ⟨⟨text, rfl⟩, by simp⟩)⟩
  | case3 c text hc hend =>
      obtain ⟨rfl, hhead⟩ := hend
      obtain ⟨more, rfl⟩ := List.head?_eq_some_iff.mp hhead
      exact ⟨'\r' :: '\n' :: more, rfl, List.not_mem_nil, Or.inr (Or.inl ⟨more, rfl⟩)⟩
  | case4 c text hc hend ih =>
      obtain ⟨below, htext, hwhole, hbelow⟩ := ih
      refine ⟨below, congrArg (c :: ·) htext, ?_, ?_⟩
      · intro hmem
        exact (List.mem_cons.mp hmem).elim (fun heq => hc heq.symm) hwhole
      · refine hbelow.imp_right (Or.imp_right ?_)
        intro hfeed
        obtain ⟨⟨more, rfl⟩, hlast⟩ := hfeed
        refine ⟨⟨more, rfl⟩, ?_⟩
        intro hcr
        rw [List.getLast?_cons] at hcr
        cases hline : (firstLine text).getLast? with
        | none =>
            rw [List.getLast?_eq_none_iff.mp hline] at htext
            exact hend ⟨by simpa [hline] using hcr, by rw [htext]; rfl⟩
        | some d => exact hlast (by simpa [hline] using hcr)

theorem exists_isLine_iff (text : List Char) (number : Nat) :
    (∃ above line below, IsLine text number above line below) ↔ number < 1 + text.count '\n' := by
  constructor
  · rintro ⟨above, line, below, hline⟩
    have hcount := hline.number_eq
    rw [hline.text_eq, List.count_append]
    omega
  · intro hnumber
    obtain ⟨above, rest, rfl, hcount, hstarts⟩ := exists_above text (Nat.lt_one_add_iff.mp hnumber)
    obtain ⟨below, hrest, hwhole, hends⟩ := exists_below rest
    exact ⟨above, firstLine rest, below, by rw [← hrest], hcount, hstarts, hwhole, hends⟩

theorem dropLines?_eq_none_of_lt (h : text.count '\n' < number) : dropLines? text number = none := by
  induction text generalizing number with
  | nil =>
      obtain ⟨number, rfl⟩ : ∃ n, number = n + 1 := ⟨number - 1, by omega⟩
      rfl
  | cons c text ih =>
      obtain ⟨number, rfl⟩ : ∃ n, number = n + 1 := ⟨number - 1, by omega⟩
      rw [dropLines?]
      apply ih
      by_cases hc : c = '\n'
      · subst hc
        simpa using h
      · simpa [hc] using h

namespace IsLine

theorem lastLine_above (h : IsLine text number above line below) : lastLine above = [] :=
  lastLine_eq_nil h.starts

theorem firstLine_eq (h : IsLine text number above line below) : firstLine (line ++ below) = line := by
  obtain ⟨-, -, -, hwhole, hends⟩ := h
  induction line with
  | nil =>
      rcases hends with rfl | ⟨rest, rfl⟩ | ⟨⟨rest, rfl⟩, -⟩
      · rfl
      · simp [firstLine]
      · simp [firstLine]
  | cons c line ih =>
      obtain ⟨hc, htail⟩ : c ≠ '\n' ∧ '\n' ∉ line := by simpa [eq_comm] using hwhole
      have hrest : ¬ (c = '\r' ∧ (line ++ below).head? = some '\n') := by
        rintro ⟨rfl, hhead⟩
        cases line with
        | nil =>
            rcases hends with rfl | ⟨rest, rfl⟩ | ⟨-, hlast⟩
            · cases hhead
            · cases hhead
            · exact hlast rfl
        | cons d line =>
            obtain rfl : d = '\n' := by simpa using hhead
            exact htail List.mem_cons_self
      rw [List.cons_append, firstLine, if_neg hc, if_neg hrest, ih htail]
      refine hends.imp_right (Or.imp_right ?_)
      intro hfeed
      refine ⟨hfeed.1, ?_⟩
      intro hlast
      apply hfeed.2
      rw [List.getLast?_cons, hlast]
      rfl

/-- The offset of a position counts from the start of its line. -/
theorem offset?_eq (h : IsLine text number above line below) (column : Nat) :
    offset? text ⟨number, column⟩ = some (byteLength above + columnOffset line column) := by
  have hdrop : dropLines? text number = some (line ++ below) := by
    rw [h.text_eq, ← h.number_eq, dropLines?_append, h.lastLine_above]
    rfl
  rw [offset?, hdrop, Option.map_some, h.firstLine_eq, h.text_eq, byteLength_append]
  congr 2
  omega

/-- A boundary in the line cuts the line. -/
theorem cut_line (h : IsLine text number above line below) (hcut : Cut text offset front back)
    (hstart : byteLength above ≤ offset) (hstop : offset ≤ byteLength (above ++ line)) :
    ∃ first rest, line = first ++ rest ∧ front = above ++ first := by
  have habove : Cut text (byteLength above) above (line ++ below) := ⟨h.text_eq, rfl⟩
  have hline : Cut text (byteLength (above ++ line)) (above ++ line) below :=
    ⟨by rw [h.text_eq, List.append_assoc], rfl⟩
  obtain ⟨first, rfl, -, -⟩ := habove.exists_between hcut hstart
  obtain ⟨rest, hrest, -, -⟩ := hcut.exists_between hline hstop
  rw [List.append_assoc, List.append_cancel_left_eq] at hrest
  exact ⟨first, rest, hrest, rfl⟩

theorem lastLine_front {first rest : List Char} (h : IsLine text number above line below)
    (hline : line = first ++ rest) : lastLine (above ++ first) = first := by
  rw [lastLine_append above, h.lastLine_above]
  · rfl
  · intro hmem
    apply h.whole
    rw [hline]
    exact List.mem_append_left rest hmem

theorem inColumn_front {first rest : List Char} (h : IsLine text number above line below)
    (hline : line = first ++ rest) :
    InColumn text (byteLength (above ++ first)) (utf16Length first) := by
  refine ⟨above ++ first, rest ++ below, ⟨?_, rfl⟩, by rw [h.lastLine_front hline]⟩
  rw [h.text_eq, hline, List.append_assoc, List.append_assoc]

/-- The boundaries of a line that reach a column are those behind first parts of the line that are
long enough. -/
theorem mem_reaching_iff (h : IsLine text number above line below) :
    offset ∈ reaching text (byteLength above) (byteLength (above ++ line)) column ↔
      ∃ first rest, line = first ++ rest ∧ offset = byteLength (above ++ first) ∧
        column ≤ utf16Length first := by
  constructor
  · rintro ⟨hstart, hstop, reached, ⟨front, back, hcut, hreached⟩, hcolumn⟩
    obtain ⟨first, rest, hline, rfl⟩ := h.cut_line hcut hstart hstop
    rw [h.lastLine_front hline] at hreached
    exact ⟨first, rest, hline, hcut.byteLength_eq.symm, by omega⟩
  · rintro ⟨first, rest, hline, rfl, hcolumn⟩
    refine ⟨?_, ?_, utf16Length first, h.inColumn_front hline, hcolumn⟩
    · rw [byteLength_append]
      omega
    · rw [hline, ← List.append_assoc, byteLength_append (above ++ first)]
      omega

end IsLine

/-! ### The first part of a line that reaches a column -/

/-- The offset of a column in a line is that of a first part of the line, which reaches the column
or is all of the line, and no shorter part reaches it. -/
theorem exists_columnOffset (line : List Char) (column : Nat) :
    ∃ first rest, line = first ++ rest ∧ columnOffset line column = byteLength first ∧
      (column ≤ utf16Length first ∨ rest = []) ∧
      ∀ other more, line = other ++ more → column ≤ utf16Length other →
        byteLength first ≤ byteLength other := by
  fun_induction columnOffset line column with
  | case1 => exact ⟨[], [], rfl, rfl, Or.inr rfl, fun _ _ _ _ => Nat.zero_le _⟩
  | case2 line => exact ⟨[], line, rfl, rfl, Or.inl (Nat.zero_le _), fun _ _ _ _ => Nat.zero_le _⟩
  | case3 c line column ih =>
      obtain ⟨first, rest, rfl, hoffset, hreached, hleast⟩ := ih
      refine ⟨c :: first, rest, rfl, by rw [hoffset, byteLength_cons], ?_, ?_⟩
      · refine hreached.imp_left ?_
        intro hcolumn
        rw [utf16Length_cons]
        omega
      · intro other more hline hother
        cases other with
        | nil => exact absurd hother (Nat.not_succ_le_zero column)
        | cons d other =>
            obtain ⟨rfl, htail⟩ := List.cons.inj hline
            rw [utf16Length_cons] at hother
            have hle := hleast other more htail (by omega)
            rw [byteLength_cons, byteLength_cons]
            omega

@[simp] theorem columnOffset_zero (line : List Char) : columnOffset line 0 = 0 := by
  cases line <;> rfl

/-- What is left of a column behind a first part of the line leads on from there. -/
theorem columnOffset_append {first : List Char} (rest : List Char) (h : utf16Length first ≤ column) :
    columnOffset (first ++ rest) column =
      byteLength first + columnOffset rest (column - utf16Length first) := by
  induction first generalizing column with
  | nil => simp
  | cons c first ih =>
      have hc := utf16Size_pos c
      rw [utf16Length_cons] at h
      obtain ⟨column, rfl⟩ : ∃ n, column = n + 1 := ⟨column - 1, by omega⟩
      rw [List.cons_append, columnOffset, ih (by omega), byteLength_cons, utf16Length_cons,
        Nat.sub_sub, Nat.add_assoc]

theorem columnOffset_mono (line : List Char) {later : Nat} (h : column ≤ later) :
    columnOffset line column ≤ columnOffset line later := by
  obtain ⟨first, rest, rfl, hoffset, -, hleast⟩ := exists_columnOffset line column
  obtain ⟨other, more, hline, hlater, hreached, -⟩ := exists_columnOffset (first ++ rest) later
  rw [hoffset, hlater]
  rcases hreached with hreached | rfl
  · exact hleast other more hline (Nat.le_trans h hreached)
  · have hbytes := congrArg byteLength hline
    simp only [byteLength_append, byteLength_nil] at hbytes
    omega

theorem columnOffset_le (line : List Char) (column : Nat) :
    columnOffset line column ≤ byteLength line := by
  obtain ⟨first, rest, rfl, hoffset, -, -⟩ := exists_columnOffset line column
  rw [hoffset, byteLength_append]
  omega

/-- The place of a boundary, by the characters in front of it. -/
theorem after_eq_mk (front : List Char) :
    Position.after ⟨0, 0⟩ front = ⟨front.count '\n', utf16Length (lastLine front)⟩ := by
  rw [after_eq]
  simp

/-! ### Positions and their offsets -/

/-- What the offset of a position is, in the line that the position names. -/
structure IsOffsetIn (text above line : List Char) (position : Position) (offset : Nat) : Prop where
  /-- The least boundary of the line that reaches the column, or else the end of the line. -/
  least : IsLeast (reaching text (byteLength above) (byteLength (above ++ line)) position.character)
      offset ∨
    reaching text (byteLength above) (byteLength (above ++ line)) position.character = ∅ ∧
      offset = byteLength (above ++ line)
  /-- A column inside a character stands for the end of the character. -/
  rounds_up : ∀ {first rest : List Char} {c : Char}, line = first ++ c :: rest →
    utf16Length first < position.character →
    position.character ≤ utf16Length first + utf16Size c →
    offset = byteLength (above ++ (first ++ [c]))
  clamps : utf16Length line ≤ position.character → offset = byteLength (above ++ line)
  /-- A line and a column of 32 bits are found again, if the line has a boundary in the column. -/
  leads_back : ∀ {boundary : Nat}, position.line < columnLimit → position.character < columnLimit →
    byteLength above ≤ boundary → boundary ≤ byteLength (above ++ line) →
    InColumn text boundary position.character → position? text offset = some position

namespace IsLine

theorem isLeast_or (h : IsLine text number above line below) (column : Nat) :
    IsLeast (reaching text (byteLength above) (byteLength (above ++ line)) column)
        (byteLength above + columnOffset line column) ∨
      reaching text (byteLength above) (byteLength (above ++ line)) column = ∅ ∧
        byteLength above + columnOffset line column = byteLength (above ++ line) := by
  obtain ⟨first, rest, hline, hoffset, hreached, hleast⟩ := exists_columnOffset line column
  rw [hoffset, ← byteLength_append]
  by_cases hcolumn : column ≤ utf16Length first
  · refine Or.inl ⟨h.mem_reaching_iff.mpr ⟨first, rest, hline, rfl, hcolumn⟩, ?_⟩
    intro offset hmem
    obtain ⟨other, more, hother, rfl, hlength⟩ := h.mem_reaching_iff.mp hmem
    have hle := hleast other more hother hlength
    rw [byteLength_append, byteLength_append]
    omega
  · obtain rfl := hreached.resolve_left hcolumn
    rw [List.append_nil] at hline
    subst hline
    refine Or.inr ⟨Set.eq_empty_iff_forall_notMem.mpr ?_, rfl⟩
    intro offset hmem
    obtain ⟨other, more, hother, -, hlength⟩ := h.mem_reaching_iff.mp hmem
    rw [hother, utf16Length_append] at hcolumn
    omega

/-- A column that some boundary of the line has is the column of the offset it leads to: no shorter
part of the line reaches the column, and no longer one is needed. -/
theorem position?_of_inColumn {boundary : Nat} (h : IsLine text number above line below)
    (hnumber : number < columnLimit) (hlimit : column < columnLimit)
    (hstart : byteLength above ≤ boundary) (hstop : boundary ≤ byteLength (above ++ line))
    (hcolumn : InColumn text boundary column) :
    position? text (byteLength above + columnOffset line column) = some ⟨number, column⟩ := by
  obtain ⟨front, back, hcut, hlength⟩ := hcolumn
  obtain ⟨other, more, hother, rfl⟩ := h.cut_line hcut hstart hstop
  rw [h.lastLine_front hother] at hlength
  have hoffset : columnOffset line column = byteLength other := by
    rw [hother, columnOffset_append more (Nat.le_of_eq hlength), hlength, Nat.sub_self,
      columnOffset_zero, Nat.add_zero]
  have hfeeds : other.count '\n' = 0 := by
    apply List.count_eq_zero_of_not_mem
    intro hmem
    apply h.whole
    rw [hother]
    exact List.mem_append_left more hmem
  rw [hoffset, ← byteLength_append, hcut.byteLength_eq, hcut.position?_eq, after_eq_mk,
    h.lastLine_front hother, hlength, List.count_append, h.number_eq, hfeeds, Nat.add_zero,
    Position.wrapped_of_lt hnumber hlimit]

theorem isOffsetIn (h : IsLine text number above line below) (column : Nat) :
    IsOffsetIn text above line ⟨number, column⟩ (byteLength above + columnOffset line column) where
  least := h.isLeast_or column
  rounds_up := by
    intro first rest c hline hlower hupper
    change utf16Length first < column at hlower
    change column ≤ utf16Length first + utf16Size c at hupper
    obtain ⟨inside, hinside⟩ : ∃ n, column - utf16Length first = n + 1 :=
      ⟨column - utf16Length first - 1, by omega⟩
    have hnext : inside + 1 - utf16Size c = 0 := by omega
    rw [hline, columnOffset_append _ (Nat.le_of_lt hlower), hinside, columnOffset, hnext]
    simp only [columnOffset_zero, byteLength_append, byteLength_cons, byteLength_nil]
  clamps := by
    intro hcolumn
    have hline := columnOffset_append [] hcolumn
    rw [List.append_nil] at hline
    rw [hline, columnOffset, Nat.add_zero, byteLength_append]
  leads_back := h.position?_of_inColumn

end IsLine

theorem exists_isLine_of_offset? {position : Position} (h : offset? text position = some offset) :
    ∃ above line below, IsLine text position.line above line below ∧
      offset = byteLength above + columnOffset line position.character := by
  have hline : position.line < 1 + text.count '\n' := by
    apply Nat.lt_of_not_le
    intro hle
    rw [offset?, dropLines?_eq_none_of_lt (by omega)] at h
    cases h
  obtain ⟨above, line, below, hisLine⟩ := (exists_isLine_iff text position.line).mpr hline
  rw [hisLine.offset?_eq position.character] at h
  exact ⟨above, line, below, hisLine, (Option.some.inj h).symm⟩

/-- What ends before a later line starts above it. -/
theorem IsLine.byteLength_le_above {later : Nat} {above' line' below' : List Char}
    (h : IsLine text number above line below) (h' : IsLine text later above' line' below')
    (hlt : number < later) : byteLength (above ++ line) ≤ byteLength above' := by
  have htext : (above ++ line) ++ below = above' ++ (line' ++ below') := by
    rw [← h'.text_eq, h.text_eq, List.append_assoc]
  rcases List.append_eq_append_iff.mp htext with ⟨between, rfl, -⟩ | ⟨between, hfront, -⟩
  · rw [byteLength_append (above ++ line)]
    omega
  · have hcount := congrArg (List.count '\n') hfront
    rw [List.count_append, List.count_append, List.count_eq_zero_of_not_mem h.whole, h.number_eq,
      h'.number_eq] at hcount
    omega

theorem offset?_mono {first second : Position} {offset' : Nat} (h : first ≤ second)
    (hfirst : offset? text first = some offset) (hsecond : offset? text second = some offset') :
    offset ≤ offset' := by
  obtain ⟨above, line, below, hline, rfl⟩ := exists_isLine_of_offset? hfirst
  rcases Position.le_iff.mp h with hlt | ⟨hsame, hcolumn⟩
  · obtain ⟨above', line', below', hline', rfl⟩ := exists_isLine_of_offset? hsecond
    have hle := hline.byteLength_le_above hline' hlt
    have hstop := columnOffset_le line first.character
    rw [byteLength_append] at hle
    omega
  · have hoffset := hline.offset?_eq second.character
    rw [hsame, hsecond] at hoffset
    obtain rfl := Option.some.inj hoffset
    have hmono := columnOffset_mono line hcolumn
    omega

/-- A position has an offset exactly if the text has its line. The offset is the least boundary of
the line that reaches the column, or the end of the line where none does, and later positions have
no earlier offsets. -/
theorem offset?_is_least_boundary (text : List Char) :
    (∀ position, offset? text position = none ↔ ¬ position.line < 1 + text.count '\n') ∧
      (∀ number, number < 1 + text.count '\n' ↔
        ∃ above line below, IsLine text number above line below) ∧
      (∀ position above line below, IsLine text position.line above line below →
        ∃ offset, offset? text position = some offset ∧
          IsOffsetIn text above line position offset) ∧
      ∀ first second offset offset', first ≤ second → offset? text first = some offset →
        offset? text second = some offset' → offset ≤ offset' := by
  refine ⟨?_, ?_, ?_, ?_⟩
  · intro position
    constructor
    · intro hnone hline
      obtain ⟨above, line, below, hisLine⟩ := (exists_isLine_iff text position.line).mpr hline
      cases (hisLine.offset?_eq position.character).symm.trans hnone
    · intro hline
      rw [offset?, dropLines?_eq_none_of_lt (by omega)]
      rfl
  · intro number
    exact (exists_isLine_iff text number).symm
  · intro position above line below hline
    exact ⟨_, hline.offset?_eq position.character, hline.isOffsetIn position.character⟩
  · intro first second offset offset' hle hfirst hsecond
    exact offset?_mono hle hfirst hsecond

/-- Column 2 of the first line lies inside a surrogate pair. -/
theorem offset?_is_least_boundary_in_pair :
    IsLine "a😀b\r\nc".toList 0 [] "a😀b".toList "\r\nc".toList ∧
      offset? "a😀b\r\nc".toList ⟨0, 2⟩ = some 5 ∧
      IsOffsetIn "a😀b\r\nc".toList [] "a😀b".toList ⟨0, 2⟩ 5 := by
  have hline : IsLine "a😀b\r\nc".toList 0 [] "a😀b".toList "\r\nc".toList :=
    ⟨rfl, rfl, by simp, by decide, Or.inr (Or.inl ⟨['c'], rfl⟩)⟩
  obtain ⟨-, -, hoffset, -⟩ := offset?_is_least_boundary "a😀b\r\nc".toList
  obtain ⟨offset, hsome, hin⟩ := hoffset ⟨0, 2⟩ [] "a😀b".toList "\r\nc".toList hline
  have hfive : offset? "a😀b\r\nc".toList ⟨0, 2⟩ = some 5 := by decide
  obtain rfl := Option.some.inj (hfive.symm.trans hsome)
  exact ⟨hline, hfive, hin⟩

end SymbolNav.Text
