import SymbolNav.Text.Digits

/-!
# Decimal digits and the numbers they denote

Reading the decimal digits of a number gives the number back, and no number but zero is written with
a zero in front. A number of 64 bits is far below the largest double.
-/

namespace SymbolNav.Text

theorem digitValue?_of_isDigit {c : Char} (h : c.isDigit) :
    digitValue? c = some (c.toNat - '0'.toNat) := by
  rw [digitValue?, if_pos h]

theorem toNat_sub_lt_of_isDigit {c : Char} (h : c.isDigit) : c.toNat - '0'.toNat < 10 := by
  have hrange : '0'.val ≤ c.val ∧ c.val ≤ '9'.val := by simpa [Char.isDigit] using h
  have hupper : c.toNat ≤ 57 := hrange.2
  have hzero : '0'.toNat = 48 := rfl
  omega

theorem isDigitOf_of_isDigit {c : Char} (h : c.isDigit) : isDigitOf 10 c := by
  simpa [isDigitOf, digitValue?_of_isDigit h] using toNat_sub_lt_of_isDigit h

theorem ne_of_isDigit {c d : Char} (hc : c.isDigit) (hd : d.isDigit = false) : c ≠ d := by
  rintro rfl
  rw [hd] at hc
  cases hc

theorem ofDigitChars_cons (c : Char) (digits : List Char) (n : Nat) :
    Nat.ofDigitChars 10 (c :: digits) n =
      Nat.ofDigitChars 10 digits (n * 10 + (c.toNat - '0'.toNat)) := by
  rw [Nat.ofDigitChars, Nat.ofDigitChars, List.foldl_cons, Nat.mul_comm]

theorem le_ofDigitChars (digits : List Char) (n : Nat) : n ≤ Nat.ofDigitChars 10 digits n := by
  induction digits generalizing n with
  | nil => exact Nat.le_refl n
  | cons c digits ih =>
      rw [ofDigitChars_cons]
      exact Nat.le_trans (by omega) (ih _)

/-- Digits are read from the left, each one after ten times what has been read. -/
theorem foldlM_digits {digits : List Char} (h : ∀ c ∈ digits, c.isDigit) (n : Nat) :
    digits.foldlM (fun n c => ((digitValue? c).filter (· < 10)).map (n * 10 + ·)) n =
      some (Nat.ofDigitChars 10 digits n) := by
  induction digits generalizing n with
  | nil => rfl
  | cons c digits ih =>
      have hc : c.isDigit := h c List.mem_cons_self
      have hlt : c.toNat - '0'.toNat < 10 := toNat_sub_lt_of_isDigit hc
      rw [List.foldlM_cons, digitValue?_of_isDigit hc, Option.filter_some,
        if_pos (by simpa using hlt)]
      simp only [Option.map_some, Option.bind_eq_bind, Option.bind_some]
      rw [ih fun d hd => h d (List.mem_cons_of_mem _ hd), ofDigitChars_cons]

theorem numberOf_eq_ofDigitChars {digits : List Char} (h : ∀ c ∈ digits, c.isDigit) :
    numberOf 10 digits = Nat.ofDigitChars 10 digits 0 := by
  have hall : digits.filter (isDigitOf 10) = digits :=
    List.filter_eq_self.mpr fun c hc => isDigitOf_of_isDigit (h c hc)
  rw [numberOf, number?, hall, foldlM_digits h, Option.getD_some]

theorem isDigit_of_mem_toDigits {n : Nat} {c : Char} (h : c ∈ Nat.toDigits 10 n) : c.isDigit :=
  Nat.isDigit_of_mem_toDigits (by omega) (by omega) h

theorem numberOf_toDigits (n : Nat) : numberOf 10 (Nat.toDigits 10 n) = n := by
  rw [numberOf_eq_ofDigitChars fun c hc => isDigit_of_mem_toDigits hc]
  exact Nat.ofDigitChars_toDigits (by omega) (by omega)

/-- Only zero is written with a zero in front. -/
theorem eq_zero_of_head?_toDigits {n : Nat} (h : (Nat.toDigits 10 n).head? = some '0') : n = 0 := by
  induction n using Nat.strongRecOn with
  | ind n ih =>
      by_cases hn : n < 10
      · have hfirst : ∀ n < 10, Nat.digitChar n = '0' → n = 0 := by decide
        rw [Nat.toDigits_of_lt_base hn] at h
        exact hfirst n hn (by simpa using h)
      · rw [Nat.toDigits_of_base_le (by omega) (by omega)] at h
        obtain ⟨c, front, hcons⟩ : ∃ c front, Nat.toDigits 10 (n / 10) = c :: front :=
          List.exists_cons_of_ne_nil Nat.toDigits_ne_nil
        have hfront : n / 10 = 0 := ih (n / 10) (by omega) (by simpa [hcons] using h)
        omega

/-! ### Doubles -/

/-- Rounding adds at most the last binary digit that is kept. -/
theorem roundToDouble_le (n : Nat) : roundToDouble n ≤ n + Nat.pow 2 (Nat.log2 n - 52) := by
  have hquotient : n / Nat.pow 2 (Nat.log2 n - 52) * Nat.pow 2 (Nat.log2 n - 52) ≤ n :=
    Nat.div_mul_le_self n _
  rw [roundToDouble]
  split
  · rw [Nat.add_mul, Nat.one_mul]
    omega
  · omega

theorem roundToDouble_lt_doubleBound {n : Nat} (h : n < Nat.pow 2 64) :
    roundToDouble n < doubleBound := by
  have hlog : Nat.log2 n ≤ 64 := by
    by_cases hn : n = 0
    · simp [hn]
    · exact Nat.le_of_lt ((Nat.log2_lt hn).mpr h)
  have hunit : Nat.pow 2 (Nat.log2 n - 52) ≤ Nat.pow 2 12 :=
    Nat.pow_le_pow_right (by omega) (by omega)
  have hbound : Nat.pow 2 64 + Nat.pow 2 12 ≤ doubleBound := by decide +kernel
  have hround := roundToDouble_le n
  omega

end SymbolNav.Text
