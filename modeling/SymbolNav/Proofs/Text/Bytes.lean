import Mathlib.Data.List.TakeWhile
import SymbolNav.Proofs.Text.Boundaries
import SymbolNav.Text.Blank
import SymbolNav.Text.Find

/-!
# Bytes that stand for characters

A scanner that goes from byte to byte may stop inside a character. It does not as long as it asks
the bytes only for properties that all bytes of a character share. Such are the properties that do
not tell the characters outside ASCII apart: a byte of such a character is never the code of an
ASCII character. Passing over the bytes with such a property is then the same as passing over the
characters with it, and a search for a text ends at a boundary as well.
-/

namespace SymbolNav.Text

/-- The byte, read as the code of a character, has the property. -/
def byteIs (p : Char → Bool) (byte : UInt8) : Bool :=
  p (Char.ofNat byte.toNat)

/-- The first offset from `offset` on whose byte does not have the property, or the end. -/
def passBytes (p : Char → Bool) (text : List Char) (offset : Nat) : Nat :=
  offset + (((encode text).drop offset).takeWhile (byteIs p)).length

/-- The property does not tell the characters outside ASCII apart. -/
def IsAsciiClass (p : Char → Bool) : Prop :=
  ∀ c d : Char, 128 ≤ c.toNat → 128 ≤ d.toNat → p c = p d

variable {p : Char → Bool} {text front back : List Char} {offset : Nat}

theorem toNat_ofNat_of_lt {n : Nat} (h : n < 256) : (Char.ofNat n).toNat = n := by
  rw [Char.ofNat, dif_pos (Or.inl (by omega))]
  rfl

/-- Each byte of a character is its code, or is outside ASCII like the character. -/
theorem toNat_of_mem_utf8EncodeChar {c : Char} {byte : UInt8} (h : byte ∈ String.utf8EncodeChar c) :
    byte.toNat = c.toNat ∨ 128 ≤ c.toNat ∧ 128 ≤ byte.toNat := by
  have hval : c.toNat = c.val.toNat := rfl
  rw [String.utf8EncodeChar] at h
  split at h
  · left
    rw [List.mem_singleton.mp h, UInt8.toNat_ofNat']
    omega
  · right
    refine ⟨by omega, ?_⟩
    split at h
    · simp only [List.mem_cons, List.not_mem_nil, or_false] at h
      rcases h with rfl | rfl <;> rw [UInt8.toNat_ofNat'] <;> omega
    · split at h
      · simp only [List.mem_cons, List.not_mem_nil, or_false] at h
        rcases h with rfl | rfl | rfl <;> rw [UInt8.toNat_ofNat'] <;> omega
      · simp only [List.mem_cons, List.not_mem_nil, or_false] at h
        rcases h with rfl | rfl | rfl | rfl <;> rw [UInt8.toNat_ofNat'] <;> omega

theorem byteIs_of_mem (hp : IsAsciiClass p) {c : Char} {byte : UInt8}
    (h : byte ∈ String.utf8EncodeChar c) : byteIs p byte = p c := by
  cases toNat_of_mem_utf8EncodeChar h with
  | inl hcode => rw [byteIs, hcode, Char.ofNat_toNat]
  | inr houtside =>
      apply hp _ _ _ houtside.1
      rw [toNat_ofNat_of_lt byte.toNat_lt]
      exact houtside.2

theorem utf8EncodeChar_ne_nil (c : Char) : String.utf8EncodeChar c ≠ [] := by
  intro hnil
  have hlength := String.length_utf8EncodeChar c
  have hpos := c.utf8Size_pos
  rw [hnil, List.length_nil] at hlength
  omega

theorem encode_cons (c : Char) (text : List Char) :
    encode (c :: text) = String.utf8EncodeChar c ++ encode text := rfl

/-- The bytes with the property are those of the characters with it. -/
theorem takeWhile_encode (hp : IsAsciiClass p) (text : List Char) :
    (encode text).takeWhile (byteIs p) = encode (text.takeWhile p) := by
  induction text with
  | nil => rfl
  | cons c text ih =>
      rw [encode_cons, List.takeWhile_cons]
      by_cases hc : p c = true
      · have hall : ∀ byte ∈ String.utf8EncodeChar c, byteIs p byte = true := fun byte hbyte =>
          (byteIs_of_mem hp hbyte).trans hc
        rw [if_pos hc, List.takeWhile_append_of_pos hall, ih, encode_cons]
      · obtain ⟨byte, more, hbytes⟩ := List.exists_cons_of_ne_nil (utf8EncodeChar_ne_nil c)
        have hbyte : byteIs p byte = p c :=
          byteIs_of_mem hp (hbytes ▸ List.mem_cons_self)
        rw [if_neg hc, hbytes, List.cons_append, List.takeWhile_cons, hbyte, if_neg hc]
        rfl

namespace Cut

theorem drop_encode (h : Cut text offset front back) : (encode text).drop offset = encode back := by
  rw [h.text_eq, encode_append, ← h.byteLength_eq, ← length_encode, List.drop_left]

/-- Passing over bytes is passing over characters. -/
theorem passBytes_eq (h : Cut text offset front back) (hp : IsAsciiClass p) :
    passBytes p text offset = offset + byteLength (back.takeWhile p) := by
  rw [passBytes, h.drop_encode, takeWhile_encode hp, length_encode]

/-- The byte at a boundary has the property if the character has it that starts there. -/
theorem byteIs_getElem? (h : Cut text offset front back) (hp : IsAsciiClass p) :
    (encode text)[offset]?.map (byteIs p) = back.head?.map p := by
  have hhead : (encode text)[offset]? = (encode back).head? := by
    rw [← h.drop_encode, List.head?_drop]
  rw [hhead]
  cases back with
  | nil => rfl
  | cons c back =>
      obtain ⟨byte, more, hbytes⟩ := List.exists_cons_of_ne_nil (utf8EncodeChar_ne_nil c)
      rw [encode_cons, hbytes]
      exact congrArg some (byteIs_of_mem hp (hbytes ▸ List.mem_cons_self))

end Cut

/-! ### Classes -/

theorem IsAsciiClass.of_forall (value : Bool) (h : ∀ c : Char, 128 ≤ c.toNat → p c = value) :
    IsAsciiClass p := by
  intro c d hc hd
  rw [h c hc, h d hd]

theorem isAsciiClass_eq {c : Char} (h : c.toNat < 128) : IsAsciiClass fun d => decide (d = c) := by
  apply IsAsciiClass.of_forall false
  intro d hd
  apply decide_eq_false
  rintro rfl
  omega

end SymbolNav.Text
