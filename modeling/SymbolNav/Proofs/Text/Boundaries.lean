import SymbolNav.Text.Lines
import SymbolNav.Text.Utf8

/-!
# Cutting a text at its boundaries

A boundary of a text cuts it into the characters in front and those behind it. The operations on
offsets are described by such cuts: `Cut` names both parts, every boundary has exactly one cut, and
of two cuts the one at the smaller offset has the shorter front. Bytes enter only through the
length of the front, which is also the number of bytes of its UTF-8 form.
-/

namespace SymbolNav.Text

/-- The offset cuts the text into `front` and `back`. -/
structure Cut (text : List Char) (offset : Nat) (front back : List Char) : Prop where
  text_eq : text = front ++ back
  byteLength_eq : byteLength front = offset

theorem byteLength_pos {text : List Char} (h : text ≠ []) : 0 < byteLength text := by
  cases text with
  | nil => exact absurd rfl h
  | cons c text =>
      have hc := c.utf8Size_pos
      rw [byteLength_cons]
      omega

theorem dropBytes?_append (front back : List Char) :
    dropBytes? (front ++ back) (byteLength front) = some back := by
  induction front with
  | nil => simp [dropBytes?]
  | cons c front ih =>
      have hc := c.utf8Size_pos
      obtain ⟨n, hn⟩ : ∃ n, c.utf8Size + byteLength front = n + 1 :=
        ⟨c.utf8Size + byteLength front - 1, by omega⟩
      have hrest : n + 1 - c.utf8Size = byteLength front := by omega
      rw [List.cons_append, byteLength_cons, hn, dropBytes?, if_pos (by omega), hrest, ih]

theorem takeBytes?_append (front back : List Char) :
    takeBytes? (front ++ back) (byteLength front) = some front := by
  induction front with
  | nil => simp [takeBytes?]
  | cons c front ih =>
      have hc := c.utf8Size_pos
      obtain ⟨n, hn⟩ : ∃ n, c.utf8Size + byteLength front = n + 1 :=
        ⟨c.utf8Size + byteLength front - 1, by omega⟩
      have hrest : n + 1 - c.utf8Size = byteLength front := by omega
      rw [List.cons_append, byteLength_cons, hn, takeBytes?, if_pos (by omega), hrest, ih]
      rfl

theorem slice?_append (front part back : List Char) :
    slice? (front ++ (part ++ back)) ⟨byteLength front, byteLength (front ++ part)⟩ =
      some part := by
  have hlength : byteLength (front ++ part) - byteLength front = byteLength part := by
    rw [byteLength_append, Nat.add_sub_cancel_left]
  rw [slice?, if_pos (by simp), dropBytes?_append, Option.bind_some, hlength, takeBytes?_append]

/-- What is left after the first bytes determines the cut. -/
theorem exists_front_of_dropBytes? {text back : List Char} {offset : Nat}
    (h : dropBytes? text offset = some back) : ∃ front, Cut text offset front back := by
  fun_induction dropBytes? text offset with
  | case1 text =>
      cases h
      exact ⟨[], rfl, rfl⟩
  | case2 => cases h
  | case3 c text n hc ih =>
      obtain ⟨front, rfl, hfront⟩ := ih h
      exact ⟨c :: front, rfl, by rw [byteLength_cons]; omega⟩
  | case4 => cases h

theorem isBoundary_iff {text : List Char} {offset : Nat} :
    IsBoundary text offset ↔ ∃ front back, Cut text offset front back := by
  constructor
  · intro h
    obtain ⟨back, hback⟩ := Option.isSome_iff_exists.mp h
    obtain ⟨front, hcut⟩ := exists_front_of_dropBytes? hback
    exact ⟨front, back, hcut⟩
  · rintro ⟨front, back, rfl, rfl⟩
    rw [IsBoundary, dropBytes?_append]
    rfl

namespace Cut

variable {text front back front' back' : List Char} {offset offset' : Nat}

theorem dropBytes?_eq (h : Cut text offset front back) : dropBytes? text offset = some back := by
  obtain ⟨rfl, rfl⟩ := h
  exact dropBytes?_append front back

theorem takeBytes?_eq (h : Cut text offset front back) :
    takeBytes? text offset = some front := by
  obtain ⟨rfl, rfl⟩ := h
  exact takeBytes?_append front back

/-- Of two cuts, the front of the later one goes on where the front of the earlier one ends. -/
theorem exists_between (h : Cut text offset front back) (h' : Cut text offset' front' back')
    (hle : offset ≤ offset') :
    ∃ mid, front' = front ++ mid ∧ back = mid ++ back' ∧ offset + byteLength mid = offset' := by
  obtain ⟨htext, hfront⟩ := h
  obtain ⟨htext', hfront'⟩ := h'
  rcases List.append_eq_append_iff.mp (htext.symm.trans htext') with
    ⟨mid, rfl, rfl⟩ | ⟨mid, rfl, rfl⟩
  · rw [byteLength_append] at hfront'
    exact ⟨mid, rfl, rfl, by omega⟩
  · rw [byteLength_append] at hfront
    cases mid with
    | nil => exact ⟨[], by simp, rfl, by simp at hfront ⊢; omega⟩
    | cons c mid =>
        have hpos := byteLength_pos (List.cons_ne_nil c mid)
        omega

end Cut

@[simp] theorem encode_append (s t : List Char) : encode (s ++ t) = encode s ++ encode t := by
  simp [encode]

@[simp] theorem length_encode (text : List Char) : (encode text).length = byteLength text := by
  induction text with
  | nil => rfl
  | cons c text ih =>
      rw [byteLength_cons, ← ih, ← String.length_utf8EncodeChar c, ← List.length_append]
      rfl

/-- Letters and digits of ASCII. -/
theorem toNat_lt_of_isAlphanum {c : Char} (h : c.isAlphanum) : c.toNat < 128 := by
  have hval : c.toNat = c.val.toNat := rfl
  delta Char.isAlphanum Char.isAlpha Char.isUpper Char.isLower Char.isDigit at h
  simp only [Bool.or_eq_true, Bool.and_eq_true, decide_eq_true_eq, ge_iff_le,
    UInt32.le_iff_toNat_le] at h
  simp at h
  omega

end SymbolNav.Text
