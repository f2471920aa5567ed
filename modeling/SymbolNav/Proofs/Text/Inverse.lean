import SymbolNav.Proofs.Text.Lines

/-!
# Positions are exact and lead back

An offset has a position exactly if it is a boundary of the text, and the position counts the line
feeds in front of the boundary and the code units behind the last of them, in 32 bits. In a text
that fits into an editor these counts are exact, later boundaries have later positions, and the
offset of the position is the boundary itself; only the boundary between a carriage return and its
line feed lies outside of every line, and its position leads back to the end of the line, one byte
earlier.
-/

namespace SymbolNav.Text

variable {text front back : List Char} {offset : Nat} {position : Position}

/-- Only a boundary has a position. -/
theorem exists_cut_of_positionFrom? {here : Position}
    (h : positionFrom? here text offset = some position) :
    ∃ front back, Cut text offset front back := by
  induction text generalizing here offset with
  | nil =>
      cases offset with
      | zero => exact ⟨[], [], rfl, rfl⟩
      | succ n => cases h
  | cons c text ih =>
      cases offset with
      | zero => exact ⟨[], c :: text, rfl, rfl⟩
      | succ n =>
          rw [positionFrom?] at h
          split at h
          · obtain ⟨front, back, rfl, hfront⟩ := ih h
            exact ⟨c :: front, back, rfl, by rw [byteLength_cons]; omega⟩
          · cases h

theorem exists_cut_of_position? (h : position? text offset = some position) :
    ∃ front back, Cut text offset front back := by
  obtain ⟨place, hplace, -⟩ := Option.map_eq_some_iff.mp h
  exact exists_cut_of_positionFrom? hplace

theorem position?_eq_some_iff :
    position? text offset = some position ↔ ∃ front back, Cut text offset front back ∧
      position = Position.wrapped ⟨front.count '\n', utf16Length (lastLine front)⟩ := by
  constructor
  · intro h
    obtain ⟨front, back, hcut⟩ := exists_cut_of_position? h
    rw [hcut.position?_eq, after_eq_mk] at h
    exact ⟨front, back, hcut, (Option.some.inj h).symm⟩
  · rintro ⟨front, back, hcut, rfl⟩
    rw [hcut.position?_eq, after_eq_mk]

theorem FitsEditor.position?_eq_some_iff (hfits : FitsEditor text) :
    position? text offset = some position ↔ ∃ front back, Cut text offset front back ∧
      position = ⟨front.count '\n', utf16Length (lastLine front)⟩ := by
  constructor
  · intro h
    obtain ⟨front, back, hcut⟩ := exists_cut_of_position? h
    rw [hcut.position?_of_fits hfits, after_eq_mk] at h
    exact ⟨front, back, hcut, (Option.some.inj h).symm⟩
  · rintro ⟨front, back, hcut, rfl⟩
    rw [hcut.position?_of_fits hfits, after_eq_mk]

theorem lt_columnLimit_of_position? (h : position? text offset = some position) :
    position.line < columnLimit ∧ position.character < columnLimit := by
  obtain ⟨place, -, rfl⟩ := Option.map_eq_some_iff.mp h
  have hpos : 0 < columnLimit := by decide
  exact ⟨Nat.mod_lt _ hpos, Nat.mod_lt _ hpos⟩

theorem Cut.offset_le (h : Cut text offset front back) : offset ≤ byteLength text := by
  rw [h.text_eq, byteLength_append, h.byteLength_eq]
  omega

/-- Between a carriage return and its line feed, the position leads back to the end of the line. -/
theorem offset?_of_splitsLineEnd (hfits : FitsEditor text) (hsplit : SplitsLineEnd text offset)
    (h : position? text offset = some position) : offset? text position = some (offset - 1) := by
  obtain ⟨front, back, hcut⟩ := hsplit
  obtain ⟨above, hfront, hstarts⟩ := exists_above_lastLine front
  have hcount : above.count '\n' = front.count '\n' := by
    conv_rhs => rw [hfront]
    rw [List.count_append, List.count_eq_zero_of_not_mem (not_mem_lastLine front), Nat.add_zero]
  have htext : text = above ++ (lastLine front ++ '\r' :: '\n' :: back) := by
    rw [← List.append_assoc, ← hfront, hcut.text_eq, List.append_assoc]
    rfl
  have hline : IsLine text (front.count '\n') above (lastLine front) ('\r' :: '\n' :: back) :=
    ⟨htext, hcount, hstarts, not_mem_lastLine front, Or.inr (Or.inl ⟨back, rfl⟩)⟩
  have hposition : position = ⟨front.count '\n', utf16Length (lastLine front ++ ['\r'])⟩ := by
    rw [hcut.position?_of_fits hfits, after_eq_mk, lastLine_append front (by decide)] at h
    simpa using (Option.some.inj h).symm
  have hend := (hline.isOffsetIn (utf16Length (lastLine front ++ ['\r']))).clamps (by simp)
  have hbytes : byteLength front + 1 = offset := by
    rw [← hcut.byteLength_eq, byteLength_append]
    rfl
  rw [hposition, hline.offset?_eq, hend, ← hfront, ← hbytes, Nat.add_sub_cancel]

theorem offset?_of_not_splitsLineEnd (hfits : FitsEditor text)
    (hsplit : ¬ SplitsLineEnd text offset) (h : position? text offset = some position) :
    offset? text position = some offset := by
  obtain ⟨front, back, hcut⟩ := exists_cut_of_position? h
  have hafter := hcut.offset?_after hsplit
  rw [hcut.position?_of_fits hfits] at h
  rwa [Option.some.inj h] at hafter

theorem lt_of_position? {later : Nat} {position' : Position} (hfits : FitsEditor text)
    (h : position? text offset = some position) (h' : position? text later = some position')
    (hlt : offset < later) : position < position' := by
  obtain ⟨front, back, hcut⟩ := exists_cut_of_position? h
  obtain ⟨front', back', hcut'⟩ := exists_cut_of_position? h'
  rw [hcut.position?_of_fits hfits] at h
  rw [hcut'.position?_of_fits hfits] at h'
  rw [← Option.some.inj h, ← Option.some.inj h']
  exact hcut.after_lt_after hcut' hlt

/-- The position of an offset is there exactly for boundaries, and counts lines and columns in 32
bits. In a text that fits into an editor it counts them exactly, grows with the offset and leads
back to it, but for a boundary that splits a line end. -/
theorem position?_exact_and_invertible (text : List Char) :
    (∀ offset, (position? text offset).isSome ↔ offset ≤ byteLength text ∧ IsBoundary text offset) ∧
      (∀ offset position, position? text offset = some position ↔
        ∃ front back, Cut text offset front back ∧
          position = Position.wrapped ⟨front.count '\n', utf16Length (lastLine front)⟩) ∧
      (∀ offset position, position? text offset = some position →
        position.line < columnLimit ∧ position.character < columnLimit) ∧
      (FitsEditor text →
        (∀ offset position, position? text offset = some position ↔
          ∃ front back, Cut text offset front back ∧
            position = ⟨front.count '\n', utf16Length (lastLine front)⟩) ∧
        (∀ offset later position position', position? text offset = some position →
          position? text later = some position' → offset < later → position < position') ∧
        ∀ offset position, position? text offset = some position →
          offset? text position =
            some (if SplitsLineEnd text offset then offset - 1 else offset)) := by
  refine ⟨?_, ?_, ?_, ?_⟩
  · intro offset
    constructor
    · intro hsome
      obtain ⟨position, hposition⟩ := Option.isSome_iff_exists.mp hsome
      obtain ⟨front, back, hcut⟩ := exists_cut_of_position? hposition
      exact ⟨hcut.offset_le, isBoundary_iff.mpr ⟨front, back, hcut⟩⟩
    · rintro ⟨-, hboundary⟩
      obtain ⟨front, back, hcut⟩ := isBoundary_iff.mp hboundary
      rw [hcut.position?_eq]
      rfl
  · intro offset position
    exact position?_eq_some_iff
  · intro offset position h
    exact lt_columnLimit_of_position? h
  · intro hfits
    refine ⟨?_, ?_, ?_⟩
    · intro offset position
      exact hfits.position?_eq_some_iff
    · intro offset later position position' h h' hlt
      exact lt_of_position? hfits h h' hlt
    · intro offset position h
      split
      · rename_i hsplit
        exact offset?_of_splitsLineEnd hfits hsplit h
      · rename_i hsplit
        exact offset?_of_not_splitsLineEnd hfits hsplit h

/-- The offset lies behind a character of two bytes and splits a line end. -/
theorem position?_exact_and_invertible_in_line_end :
    SplitsLineEnd "é\r\n😀x".toList 3 ∧ FitsEditor "é\r\n😀x".toList ∧
      position? "é\r\n😀x".toList 3 = some ⟨0, 2⟩ ∧ offset? "é\r\n😀x".toList ⟨0, 2⟩ = some 2 ∧
      position? "é\r\n😀x".toList 8 = some ⟨1, 2⟩ ∧ (⟨0, 2⟩ : Position) < ⟨1, 2⟩ := by
  have hsplit : SplitsLineEnd "é\r\n😀x".toList 3 := by decide
  have hfits : FitsEditor "é\r\n😀x".toList := fitsEditor_of_utf16Length (by decide)
  have hfirst : position? "é\r\n😀x".toList 3 = some ⟨0, 2⟩ := by decide
  have hsecond : position? "é\r\n😀x".toList 8 = some ⟨1, 2⟩ := by decide
  obtain ⟨-, hgrows, hback⟩ := (position?_exact_and_invertible "é\r\n😀x".toList).2.2.2 hfits
  have hoffset := hback 3 ⟨0, 2⟩ hfirst
  rw [if_pos hsplit] at hoffset
  exact ⟨hsplit, hfits, hfirst, hoffset, hsecond, hgrows 3 8 _ _ hfirst hsecond (by decide)⟩

end SymbolNav.Text
