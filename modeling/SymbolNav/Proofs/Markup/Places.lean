import SymbolNav.Proofs.Markup.Order
import SymbolNav.Proofs.Text.Bytes

/-!
# Places and their offsets

The scanner names a place of the text by the characters from there to the end. Here the operations
on offsets are told at such places: what is left behind the offset of a place is the place, what
stands between two places is what the text has at the span between them, and a search or a walk over
bytes from the offset of a place ends at the offset of the place that `seek` or `dropWhile` names.
-/

namespace SymbolNav

open Text

namespace Markup

variable {text rest later part needle : List Char} {p : Char → Bool}

/-! ### Cuts, slices and spans -/

theorem cut_offsetOf (h : rest <:+ text) :
    ∃ front, Cut text (offsetOf (byteLength text) rest) front rest := by
  obtain ⟨front, rfl⟩ := h
  refine ⟨front, rfl, ?_⟩
  rw [offsetOf, byteLength_append, Nat.add_sub_cancel]

theorem dropBytes?_offsetOf (h : rest <:+ text) :
    dropBytes? text (offsetOf (byteLength text) rest) = some rest := by
  obtain ⟨front, hcut⟩ := cut_offsetOf h
  exact hcut.dropBytes?_eq

theorem isBoundary_offsetOf (h : rest <:+ text) :
    IsBoundary text (offsetOf (byteLength text) rest) := by
  rw [IsBoundary, dropBytes?_offsetOf h]
  rfl

/-- Behind a part of the text, offsets are greater by its length. -/
theorem offsetOf_append (part : List Char) (h : part ++ later <:+ text) :
    offsetOf (byteLength text) (part ++ later) + byteLength part =
      offsetOf (byteLength text) later := by
  have hle := byteLength_le_of_suffix h
  rw [byteLength_append] at hle
  simp only [offsetOf, byteLength_append]
  omega

theorem offsetOf_cons {c : Char} (hc : c.utf8Size = 1) (h : c :: rest <:+ text) :
    offsetOf (byteLength text) (c :: rest) + 1 = offsetOf (byteLength text) rest := by
  have hoffset := offsetOf_append [c] h
  rwa [byteLength_cons, byteLength_nil, Nat.add_zero, hc] at hoffset

theorem offsetOf_nil (total : Nat) : offsetOf total [] = total := rfl

theorem offsetOf_le (total : Nat) (rest : List Char) : offsetOf total rest ≤ total :=
  Nat.sub_le _ _

/-- The offset of a place is the end of the text only at the end. -/
theorem byteLength_le_offsetOf_iff (h : rest <:+ text) :
    byteLength text ≤ offsetOf (byteLength text) rest ↔ rest = [] := by
  have hle := byteLength_le_of_suffix h
  constructor
  · intro hend
    cases rest with
    | nil => rfl
    | cons c rest =>
        have hpos := byteLength_pos (List.cons_ne_nil c rest)
        rw [offsetOf] at hend
        omega
  · rintro rfl
    exact Nat.le_refl _

theorem suffix_of_append (part : List Char) (h : part ++ later <:+ text) : later <:+ text :=
  (List.suffix_append part later).trans h

/-- What the text has between two places. -/
theorem slice?_spanBetween (h : part ++ later <:+ text) :
    slice? text (spanBetween (byteLength text) (part ++ later) later) = some part := by
  obtain ⟨front, rfl⟩ := h
  have hspan : spanBetween (byteLength (front ++ (part ++ later))) (part ++ later) later =
      ⟨byteLength front, byteLength (front ++ part)⟩ := by
    simp only [spanBetween, offsetOf, byteLength_append, Span.mk.injEq]
    omega
  rw [hspan]
  exact slice?_append front part later

/-- What was passed over is what the text has between the two places. -/
theorem slice?_takeWhile (p : Char → Bool) (h : rest <:+ text) :
    slice? text (spanBetween (byteLength text) rest (rest.dropWhile p)) =
      some (rest.takeWhile p) := by
  have hsplit : rest.takeWhile p ++ rest.dropWhile p = rest := List.takeWhile_append_dropWhile
  have hslice := slice?_spanBetween (hsplit.symm ▸ h)
  rwa [hsplit] at hslice

/-- The span is upright, lies in the text and splits no character. -/
structure LiesIn (text : List Char) (s : Span) : Prop where
  upright : s.start ≤ s.stop
  inText : s.stop ≤ byteLength text
  start : IsBoundary text s.start
  stop : IsBoundary text s.stop

theorem liesIn_spanBetween (hrest : rest <:+ text) (hlater : later <:+ rest) :
    LiesIn text (spanBetween (byteLength text) rest later) where
  upright := offsetOf_le_of_suffix hlater
  inText := offsetOf_le _ _
  start := isBoundary_offsetOf hrest
  stop := isBoundary_offsetOf (hlater.trans hrest)

/-! ### Searching -/

theorem seek_singleton (c : Char) (rest : List Char) : seek [c] rest = rest.dropWhile (· ≠ c) := by
  induction rest with
  | nil => rfl
  | cons d rest ih =>
      rw [seek, List.dropWhile_cons, ih]
      by_cases hd : d = c
      · simp [hd]
      · simp [hd, Ne.symm hd]

theorem eq_of_dropWhile_ne {c d : Char} (h : rest.dropWhile (· ≠ d) = c :: later) : c = d := by
  have hhead := List.head?_dropWhile_not (· ≠ d) rest
  rw [h] at hhead
  simpa using hhead

/-- What is found starts with the needle. -/
theorem exists_seek_eq (h : seek needle rest ≠ []) : ∃ more, seek needle rest = needle ++ more := by
  induction rest with
  | nil => exact absurd rfl h
  | cons c rest ih =>
      rw [seek] at h ⊢
      split
      · rename_i hfound
        obtain ⟨more, hmore⟩ := List.isPrefixOf_iff_prefix.mp hfound
        exact ⟨more, hmore.symm⟩
      · rename_i hfound
        rw [if_neg hfound] at h
        exact ih h

/-- The offset that a search answers is how far away the place is that it finds. -/
theorem find?_eq (hneedle : needle ≠ []) (rest : List Char) :
    find? needle rest =
      if seek needle rest = [] then none
      else some (byteLength rest - byteLength (seek needle rest)) := by
  induction rest with
  | nil => simp [find?, seek, hneedle]
  | cons c rest ih =>
      rw [find?, seek]
      split
      · simp
      · have hle := byteLength_le_of_suffix (seek_suffix needle rest)
        rw [ih]
        split
        · rfl
        · rw [Option.map_some, byteLength_cons]
          congr 1
          omega

theorem find?_of_not_mem {c : Char} (h : c ∉ rest) : find? [c] rest = none := by
  induction rest with
  | nil => rfl
  | cons d rest ih =>
      obtain ⟨hd, hrest⟩ : c ≠ d ∧ c ∉ rest := by simpa using h
      simp [find?, hd, ih hrest]

theorem find?_append {front : List Char} {c : Char} (back : List Char) (h : c ∉ front) :
    find? [c] (front ++ c :: back) = some (byteLength front) := by
  induction front with
  | nil => simp [find?]
  | cons d front ih =>
      obtain ⟨hd, hfront⟩ : c ≠ d ∧ c ∉ front := by simpa using h
      simp [find?, hd, ih hfront]

/-! ### Bindings -/

variable {front inner : List Char}

theorem bindingRegions_of_not_mem (h : '\x7b' ∉ rest) (offset : Nat) :
    bindingRegions offset none rest = [] := by
  induction rest generalizing offset with
  | nil => rfl
  | cons c rest ih =>
      obtain ⟨hc, hrest⟩ : '\x7b' ≠ c ∧ '\x7b' ∉ rest := by simpa using h
      rw [bindingRegions, if_neg hc.symm, ih hrest]

/-- The first bracket opens a binding. -/
theorem bindingRegions_append (h : '\x7b' ∉ front) (offset : Nat) (back : List Char) :
    bindingRegions offset none (front ++ '\x7b' :: back) =
      bindingRegions (offset + byteLength front + 1) (some (offset + byteLength front + 1))
        back := by
  induction front generalizing offset with
  | nil => rfl
  | cons c front ih =>
      obtain ⟨hc, hfront⟩ : '\x7b' ≠ c ∧ '\x7b' ∉ front := by simpa using h
      rw [List.cons_append, bindingRegions, if_neg hc.symm, ih hfront, byteLength_cons,
        Nat.add_assoc offset]

theorem bindingRegions_some_of_not_mem (h : '\x7d' ∉ rest) (offset start : Nat) :
    bindingRegions offset (some start) rest = [] := by
  induction rest generalizing offset with
  | nil => rfl
  | cons c rest ih =>
      obtain ⟨hc, hrest⟩ : '\x7d' ≠ c ∧ '\x7d' ∉ rest := by simpa using h
      rw [bindingRegions, if_neg hc.symm, ih hrest]

/-- The next bracket of the other kind closes it. -/
theorem bindingRegions_some_append (h : '\x7d' ∉ inner) (offset start : Nat) (back : List Char) :
    bindingRegions offset (some start) (inner ++ '\x7d' :: back) =
      ⟨start, offset + byteLength inner⟩ ::
        bindingRegions (offset + byteLength inner + 1) none back := by
  induction inner generalizing offset with
  | nil => rfl
  | cons c inner ih =>
      obtain ⟨hc, hinner⟩ : '\x7d' ≠ c ∧ '\x7d' ∉ inner := by simpa using h
      rw [List.cons_append, bindingRegions, if_neg hc.symm, ih hinner, byteLength_cons,
        Nat.add_assoc offset]

end Markup

end SymbolNav
