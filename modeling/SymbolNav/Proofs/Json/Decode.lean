import Mathlib.Data.List.TakeWhile
import SymbolNav.Json.Decode
import SymbolNav.Proofs.Text.Digits

/-!
# Decoding what has been encoded

For each way of writing data as a value there is one of reading it back. Lists and options need a
law only for what they hold. A record is read from the members it was written with as long as no
name stands twice. Where it shares an object with a variant, the members of the two must not have a
name in common, and those of the variant must be kept: numbers of 64 bits and texts are, and so are
lists and records of them.
-/

namespace SymbolNav

open Text

namespace Json

/-! ### Numbers that are kept -/

/-- The digits of a number that fits are all taken. -/
theorem Scaled.ofWhole_eq {digits : List Char} (hdigits : ∀ c ∈ digits, c.isDigit) {n : Nat}
    (hfits : Nat.ofDigitChars 10 digits n < significandLimit) :
    ofWhole n digits = ⟨Nat.ofDigitChars 10 digits n, 0⟩ := by
  induction digits generalizing n with
  | nil => rfl
  | cons c digits ih =>
      have hc : numberOf 10 [c] = c.toNat - '0'.toNat := by
        rw [numberOf_eq_ofDigitChars (by simpa using hdigits c List.mem_cons_self)]
        simp [Nat.ofDigitChars]
      rw [ofDigitChars_cons, ← hc] at hfits ⊢
      rw [ofWhole, if_pos (Nat.lt_of_le_of_lt (le_ofDigitChars _ _) hfits)]
      exact ih (fun d hd => hdigits d (List.mem_cons_of_mem _ hd)) hfits

theorem Scaled.isFinite_of_lt {n : Nat} (h : n < significandLimit) : Scaled.isFinite ⟨n, 0⟩ := by
  have hround : roundToDouble n < doubleBound := roundToDouble_lt_doubleBound h
  have hone : roundToDouble (Nat.pow 10 0) = 1 := by decide
  change (decide (n = 0) || (decide (0 ≤ 308) &&
    decide (roundToDouble n * roundToDouble (Nat.pow 10 0) < doubleBound))) = true
  rw [hone, Nat.mul_one]
  simp [hround]

theorem splitSign_toDigits (n : Nat) :
    splitSign (Nat.toDigits 10 n) = (false, Nat.toDigits 10 n) := by
  have hdigits : ∀ c ∈ Nat.toDigits 10 n, c.isDigit := fun _ => isDigit_of_mem_toDigits
  unfold splitSign
  split
  next heq => simp [heq] at hdigits
  next heq => simp [heq] at hdigits
  next => rfl

theorem isFinite_toDigits {n : Nat} (h : n < Scaled.significandLimit) :
    isFinite (Nat.toDigits 10 n) := by
  have hdigits : ∀ c ∈ Nat.toDigits 10 n, c.isDigit := fun _ => isDigit_of_mem_toDigits
  have hvalue : Nat.ofDigitChars 10 (Nat.toDigits 10 n) 0 = n :=
    Nat.ofDigitChars_toDigits (by omega) (by omega)
  have hmark : ∀ c ∈ Nat.toDigits 10 n, !(decide (c = 'e') || decide (c = 'E')) := by
    intro c hc
    have he : c ≠ 'e' := ne_of_isDigit (hdigits c hc) rfl
    have hE : c ≠ 'E' := ne_of_isDigit (hdigits c hc) rfl
    simp [he, hE]
  have hpoint : ∀ c ∈ Nat.toDigits 10 n, decide (c ≠ '.') := fun c hc =>
    decide_eq_true (ne_of_isDigit (hdigits c hc) rfl)
  rw [isFinite]
  simp only [List.takeWhile_eq_self_iff.mpr hmark, List.dropWhile_eq_nil_iff.mpr hmark,
    List.takeWhile_eq_self_iff.mpr hpoint, List.dropWhile_eq_nil_iff.mpr hpoint,
    splitSign_toDigits, Scaled.ofWhole_eq hdigits (hvalue.symm ▸ h), hvalue]
  exact Scaled.isFinite_of_lt h

/-! ### Values that are kept -/

theorem isKept_int {n : Int} (h : n.natAbs < Scaled.significandLimit) (depth : Nat) :
    isKept depth (.int n) := by
  rw [isKept]
  exact isFinite_toDigits h

@[simp] theorem isKept_text (s : String) (depth : Nat) : isKept depth (.text s) := by
  rw [isKept]
  rfl

@[simp] theorem isKept_bool (b : Bool) (depth : Nat) : isKept depth (.bool b) := by
  rw [isKept]

theorem areItemsKept_iff {items : List Json} {depth : Nat} :
    areItemsKept depth items ↔ ∀ item ∈ items, isKept depth item := by
  induction items with
  | nil => simp [areItemsKept]
  | cons item items ih => simp [areItemsKept, ih]

theorem areMembersKept_iff {members : List (String × Json)} {depth : Nat} :
    areMembersKept depth (members.map fun m => (some m.1, m.2)) ↔
      ∀ m ∈ members, isKept depth m.2 := by
  induction members with
  | nil => simp [areMembersKept]
  | cons member members ih => simp [areMembersKept, isMemberKept, ih]

theorem isKept_list {write : α → Json} {p : α → Bool} {as : List α} {depth : Nat}
    (hwrite : ∀ {a}, p a → isKept depth (write a)) (h : as.all p) :
    isKept (depth + 1) (.list write as) := by
  rw [list, isKept, areItemsKept_iff, List.forall_mem_map]
  exact fun a ha => hwrite (List.all_eq_true.mp h a ha)

theorem isKept_option {write : α → Json} {p : α → Bool} {o : Option α} {depth : Nat}
    (hwrite : ∀ {a}, p a → isKept depth (write a)) (h : o.all p) :
    isKept depth (.option write o) := by
  cases o with
  | none => rw [option, isKept]
  | some a => exact hwrite h

theorem isKept_record {members : List (String × Json)} {depth : Nat}
    (h : ∀ m ∈ members, isKept depth m.2) : isKept (depth + 1) (.record members) := by
  rw [record, isKept, areMembersKept_iff]
  exact h

/-! ### Single values -/

theorem nat?_ofNat {n limit : Nat} (h : n < limit) : nat? limit (ofNat n) = some n := by
  change (if n < limit then some n else none) = some n
  rw [if_pos h]

theorem int64?_int {n : Int} (hlow : -Int.ofNat (Nat.pow 2 63) ≤ n)
    (hhigh : n < Int.ofNat (Nat.pow 2 63)) : int64? (.int n) = some n := by
  rw [int64?, if_pos ⟨hlow, hhigh⟩]

@[simp] theorem bool?_bool (b : Bool) : bool? (.bool b) = some b := rfl

@[simp] theorem text?_text (s : String) : text? (.text s) = some s := rfl

/-- A list is read back if each of its items is. -/
theorem list?_list {read : Json → Option α} {write : α → Json} {p : α → Bool} {as : List α}
    (hread : ∀ {a}, p a → read (write a) = some a) (h : as.all p) :
    list? read (.list write as) = some as := by
  rw [list, list?]
  induction as with
  | nil => rfl
  | cons a as ih =>
      obtain ⟨ha, has⟩ : p a ∧ as.all p := by simpa using h
      rw [List.map_cons, List.mapM_cons, hread ha, ih has]
      rfl

/-- An option is read back if what it holds is, and `null` is not read as that. -/
theorem nullable?_option {read : Json → Option α} {write : α → Json} {p : α → Bool} {o : Option α}
    (hread : ∀ {a}, p a → read (write a) = some a) (hnull : read .null = none) (h : o.all p) :
    nullable? read (.option write o) = some o := by
  cases o with
  | none => rfl
  | some a =>
      have ha : read (write a) = some a := hread h
      rw [option]
      unfold nullable?
      split
      next heq =>
        rw [heq, hnull] at ha
        cases ha
      next => rw [ha, Option.map_some]

@[simp] theorem nullable?_optionText (o : Option String) :
    nullable? text? (.option .text o) = some o := by
  cases o <;> rfl

@[simp] theorem tag?_cons (kept : Bool) (s name : String) (a : α) (names : List (String × α)) :
    tag? kept ((name, a) :: names) (.text s) =
      if s = name then some a else tag? kept names (.text s) := by
  by_cases h : s = name
  · simp [tag?, h]
  · have hne : (s == name) = false := beq_false_of_ne h
    simp only [tag?, List.lookup_cons, hne, if_neg h]

end Json

/-! ### Records -/

namespace Record

theorem get?_cons (key name : String) (j : Json) (members : List (String × Json)) :
    get? ⟨(key, j) :: members⟩ name = if name = key then some j else get? ⟨members⟩ name := by
  by_cases h : name = key
  · simp [get?, h]
  · have hne : (name == key) = false := beq_false_of_ne h
    simp only [get?, List.lookup_cons, hne, if_neg h]

@[simp] theorem required?_cons (key name : String) (j : Json) (members : List (String × Json))
    (read : Json → Option α) :
    required? ⟨(key, j) :: members⟩ name read =
      if name = key then read j else required? ⟨members⟩ name read := by
  by_cases h : name = key <;> simp [required?, get?_cons, h]

@[simp] theorem field?_cons (key name : String) (j : Json) (members : List (String × Json))
    (read : Json → Option α) (default : α) :
    field? ⟨(key, j) :: members⟩ name read default =
      if name = key then read j else field? ⟨members⟩ name read default := by
  by_cases h : name = key <;> simp [field?, get?_cons, h]

@[simp] theorem optional?_cons (key name : String) (j : Json) (members : List (String × Json))
    (read : Json → Option α) :
    optional? ⟨(key, j) :: members⟩ name read =
      if name = key then j.nullable? read else optional? ⟨members⟩ name read :=
  field?_cons key name j members (Json.nullable? read) none

theorem select?_of_nodup {members : List (String × Json)} (h : (members.map (·.1)).Nodup)
    (fields : List String) : select? ⟨members⟩ fields = some ⟨members⟩ := by
  have hcount (field : String) : (members.filter (·.1 = field)).length ≤ 1 := by
    calc (members.filter (·.1 = field)).length
        = members.countP (·.1 = field) := List.countP_eq_length_filter.symm
      _ = (members.map (·.1)).count field := by rw [List.count_eq_countP, List.countP_map]; rfl
      _ ≤ 1 := List.nodup_iff_count.mp h field
  rw [select?, if_pos]
  exact List.all_eq_true.mpr fun field _ => decide_eq_true (hcount field)

end Record

namespace Json

theorem named?_map (members : List (String × Json)) :
    named? (members.map fun m => (some m.1, m.2)) = some members := by
  rw [named?]
  induction members with
  | nil => rfl
  | cons member members ih =>
      rw [List.map_cons, List.mapM_cons, ih]
      rfl

@[simp] theorem record?_record {members : List (String × Json)} (fields : List String)
    (h : (members.map (·.1)).Nodup) : record? fields (.record members) = some ⟨members⟩ := by
  rw [record, record?, named?_map, Option.bind_some, Record.select?_of_nodup h]

/-- A record that shares its object with a variant is told apart from it by the names. -/
theorem shared?_record {fields : List String} {depth : Nat}
    (front variant back : List (String × Json))
    (hown : ∀ m ∈ front ++ back, m.1 ∈ fields) (hvariant : ∀ m ∈ variant, m.1 ∉ fields)
    (hnames : ((front ++ back).map (·.1)).Nodup) (hkept : ∀ m ∈ variant, m.2.isKept depth) :
    shared? depth fields (.record (front ++ variant ++ back)) =
      some (⟨front ++ back⟩, ⟨variant⟩) := by
  have hfront : ∀ m ∈ front, m.1 ∈ fields := fun m hm => hown m (List.mem_append_left _ hm)
  have hback : ∀ m ∈ back, m.1 ∈ fields := fun m hm => hown m (List.mem_append_right _ hm)
  have hparts : (front ++ variant ++ back).partition (fun m => fields.contains m.1) =
      (front ++ back, variant) := by
    rw [List.partition_eq_filter_filter]
    simp only [List.filter_append, Prod.mk.injEq]
    constructor
    · rw [List.filter_eq_self.mpr (by simpa using hfront),
        List.filter_eq_nil_iff.mpr (by simpa using hvariant),
        List.filter_eq_self.mpr (by simpa using hback), List.append_nil]
    · rw [List.filter_eq_nil_iff.mpr (by simpa using hfront),
        List.filter_eq_self.mpr (by simpa using hvariant),
        List.filter_eq_nil_iff.mpr (by simpa using hback), List.nil_append, List.append_nil]
  have hall : (variant.all fun m => m.2.isKept depth) = true := List.all_eq_true.mpr hkept
  simp only [record, shared?, named?_map, Option.bind_eq_bind, Option.bind_some, hparts,
    Record.select?_of_nodup hnames, if_pos hall]

end Json

end SymbolNav
