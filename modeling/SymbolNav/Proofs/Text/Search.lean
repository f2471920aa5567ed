import SymbolNav.Proofs.Text.Boundaries
import SymbolNav.Text.Find

/-!
# What a search has found

A search answers offsets and says nothing else of the text around them. Whatever it skips and
wherever it starts, the needle stands at each offset it answers, between two boundaries of the text.
So where a keyword was found with a name behind it, the name is what the text has at the end of the
place, and the block or the statement that follows ends behind the name.
-/

namespace SymbolNav.Text

variable {text part needle keyword name : List Char} {within found : Span} {offset start : Nat}

/-! ### Slices -/

theorem exists_back_of_takeBytes? (h : takeBytes? text offset = some part) :
    ∃ back, Cut text offset part back := by
  induction text generalizing offset part with
  | nil =>
      cases offset with
      | zero =>
          cases h
          exact ⟨[], rfl, rfl⟩
      | succ n => cases h
  | cons c text ih =>
      cases offset with
      | zero =>
          cases h
          exact ⟨c :: text, rfl, rfl⟩
      | succ n =>
          rw [takeBytes?] at h
          split at h
          · obtain ⟨rest, hrest, rfl⟩ := Option.map_eq_some_iff.mp h
            obtain ⟨back, rfl, hlength⟩ := ih hrest
            exact ⟨back, rfl, by rw [byteLength_cons]; omega⟩
          · cases h

/-- What a slice is cut from. -/
theorem exists_cut_of_slice? (h : slice? text within = some part) :
    ∃ front back, Cut text within.start front (part ++ back) := by
  rw [slice?] at h
  split at h
  · obtain ⟨rest, hrest, hpart⟩ := Option.bind_eq_some_iff.mp h
    obtain ⟨front, hfront⟩ := exists_front_of_dropBytes? hrest
    obtain ⟨back, rfl, -⟩ := exists_back_of_takeBytes? hpart
    exact ⟨front, back, hfront⟩
  · cases h

/-- The second of two parts that follow an offset. -/
theorem Cut.slice?_behind {front back : List Char}
    (h : Cut text start front (keyword ++ (name ++ back))) :
    slice? text ⟨start + byteLength keyword, start + byteLength keyword + byteLength name⟩ =
      some name := by
  obtain ⟨rfl, rfl⟩ := h
  have hslice := slice?_append (front ++ keyword) name back
  simpa only [byteLength_append, List.append_assoc, Nat.add_assoc] using hslice

/-! ### Occurrences -/

/-- An occurrence lies as far behind the start of the search as the text in front of it is long. -/
theorem exists_of_mem_occurrencesFrom {skip : Nat}
    (h : start ∈ occurrencesFrom needle skip offset text) :
    ∃ front back, text = front ++ (needle ++ back) ∧ start = offset + byteLength front := by
  induction text generalizing skip offset with
  | nil =>
      rw [occurrencesFrom] at h
      split at h
      · rename_i hempty
        obtain rfl := List.isEmpty_iff.mp hempty
        exact ⟨[], [], rfl, List.mem_singleton.mp h⟩
      · cases h
  | cons c text ih =>
      have later {skip : Nat} (h : start ∈ occurrencesFrom needle skip (offset + c.utf8Size) text) :
          ∃ front back, c :: text = front ++ (needle ++ back) ∧
            start = offset + byteLength front := by
        obtain ⟨front, back, rfl, rfl⟩ := ih h
        exact ⟨c :: front, back, rfl, by rw [byteLength_cons, Nat.add_assoc]⟩
      cases skip with
      | succ skip => exact later h
      | zero =>
          rw [occurrencesFrom] at h
          split at h
          · rename_i hhere
            cases List.mem_cons.mp h with
            | inl hfirst =>
                obtain ⟨back, hback⟩ := List.isPrefixOf_iff_prefix.mp hhere
                exact ⟨[], back, hback.symm, hfirst⟩
            | inr hmore => exact later hmore
          · exact later h

/-- The needle stands at the place of a whole word, and the place is as long as the needle. -/
theorem exists_cut_of_mem_wordOccurrences (h : found ∈ wordOccurrences text needle within) :
    found.stop = found.start + byteLength needle ∧
      ∃ front back, Cut text found.start front (needle ++ back) := by
  rw [wordOccurrences] at h
  split at h
  · cases h
  · rename_i part hpart
    obtain ⟨start, hstart, rfl⟩ := List.mem_map.mp h
    obtain ⟨inner, hinner, rfl⟩ := List.mem_map.mp (List.mem_filter.mp hstart).1
    obtain ⟨mid, back, rfl, rfl⟩ := exists_of_mem_occurrencesFrom hinner
    obtain ⟨front, rest, hcut⟩ := exists_cut_of_slice? hpart
    refine ⟨rfl, front ++ mid, back ++ rest, ?_, ?_⟩
    · rw [hcut.text_eq]
      simp only [List.append_assoc]
    · rw [byteLength_append, hcut.byteLength_eq, Nat.zero_add]

theorem stop_le_of_mem_wordOccurrences (h : found ∈ wordOccurrences text needle within) :
    found.stop ≤ byteLength text := by
  obtain ⟨hstop, front, back, hcut⟩ := exists_cut_of_mem_wordOccurrences h
  rw [hstop, ← hcut.byteLength_eq, hcut.text_eq]
  simp only [byteLength_append]
  omega

/-- Where a keyword was found with a name behind it, the text has the name at the end. -/
theorem slice?_of_mem_wordOccurrences (h : found ∈ wordOccurrences text (keyword ++ name) within) :
    slice? text ⟨found.stop - byteLength name, found.stop⟩ = some name := by
  obtain ⟨hstop, front, back, hcut⟩ := exists_cut_of_mem_wordOccurrences h
  rw [List.append_assoc] at hcut
  rw [hstop, byteLength_append, ← Nat.add_assoc, Nat.add_sub_cancel]
  exact hcut.slice?_behind

/-- Nothing is found in an empty text but the empty needle. -/
theorem ne_nil_of_mem_wordOccurrences (h : found ∈ wordOccurrences text needle within)
    (hneedle : needle ≠ []) : text ≠ [] := by
  obtain ⟨-, front, back, hcut⟩ := exists_cut_of_mem_wordOccurrences h
  rw [hcut.text_eq]
  simp [hneedle]

/-! ### Ends -/

theorem le_blockEnd (text : List Char) (offset : Nat) : offset ≤ blockEnd text offset := by
  rw [blockEnd]
  split
  · exact Nat.le_refl _
  · split
    · exact Nat.le_refl _
    · omega

end SymbolNav.Text
