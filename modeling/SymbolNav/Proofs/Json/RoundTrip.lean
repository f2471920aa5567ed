import SymbolNav.Json.Printer
import SymbolNav.Json.Reader
import SymbolNav.Proofs.Text.Digits

/-!
# Reading what has been written

A value whose strings denote texts and whose numbers are whole is read back from its text. Each part
of the reader is shown to take exactly what the printer wrote and to leave what stands behind it.
The only parts that have no end of their own are numbers, so what stands behind one must not go on
with it. `Reads` is that statement for a value, and is proved by induction over the value.
-/

namespace SymbolNav.Json

/-- Strings denote texts and numbers are whole. -/
inductive Plain : Json → Prop where
  | null : Plain .null
  | bool (b : Bool) : Plain (.bool b)
  | int (n : Int) : Plain (.int n)
  | text (s : String) : Plain (.text s)
  | array {items : List Json} (h : ∀ item ∈ items, Plain item) : Plain (.array items)
  | record {members : List (String × Json)} (h : ∀ m ∈ members, Plain m.2) : Plain (.record members)

attribute [simp] Plain.null Plain.bool Plain.int Plain.text

@[simp] theorem plain_ofNat (n : Nat) : (ofNat n).Plain := .int n

@[simp] theorem plain_record_iff {members : List (String × Json)} :
    (Json.record members).Plain ↔ ∀ m ∈ members, m.2.Plain := by
  constructor
  · intro h
    generalize hj : Json.record members = j at h
    cases h with
    | @record others hothers =>
        simp only [Json.record, Json.object.injEq] at hj
        intro m hm
        have hmem : (some m.1, m.2) ∈ others.map fun n => (some n.1, n.2) := by
          rw [← hj]
          exact List.mem_map.mpr ⟨m, hm, rfl⟩
        obtain ⟨n, hn, heq⟩ := List.mem_map.mp hmem
        have hvalue : n.2 = m.2 := (Prod.mk.inj heq).2
        rw [← hvalue]
        exact hothers n hn
    | null | bool _ | int _ | text _ | array _ => cases hj
  · exact .record

@[simp] theorem plain_list_iff {write : α → Json} {as : List α} :
    (Json.list write as).Plain ↔ ∀ a ∈ as, (write a).Plain := by
  constructor
  · rintro (_ | _ | _ | _ | hitems | _)
    exact List.forall_mem_map.mp hitems
  · intro h
    exact .array (List.forall_mem_map.mpr h)

@[simp] theorem plain_option_iff {write : α → Json} {o : Option α} :
    (Json.option write o).Plain ↔ ∀ a ∈ o, (write a).Plain := by
  cases o <;> simp [Json.option]

/-- The text does not go on with a number that stands in front of it. -/
def EndsNumber (text : List Char) : Prop :=
  ∀ c ∈ text.head?, c.isDigit = false ∧ c ≠ '.' ∧ c ≠ 'e' ∧ c ≠ 'E'

/-- The value is read back from its text with any sufficient bound, and what follows is left. -/
def Reads (j : Json) : Prop :=
  ∀ {bound : Nat} {rest : List Char}, 2 * j.render.length ≤ bound → EndsNumber rest →
    value? bound (j.render ++ rest) = some (j, rest)

theorem endsNumber_nil : EndsNumber [] := by
  intro c hc
  cases hc

theorem skipBlanks_cons {c : Char} {text : List Char} (h : isBlank c = false) :
    skipBlanks (c :: text) = c :: text := by
  rw [skipBlanks, List.dropWhile_cons, h]
  rfl

/-! ### Strings -/

theorem number?_controlDigits : ∀ n < 0x20,
    Text.number? 16 ['0', '0', Nat.digitChar (n / 16), Nat.digitChar (n % 16)] = some n := by
  decide

theorem escape?_control {c : Char} (h : c.toNat < 0x20) (text : List Char) :
    escape? ('u' :: '0' :: '0' :: Nat.digitChar (c.toNat / 16) :: Nat.digitChar (c.toNat % 16) ::
      text) = some (some c, text) := by
  have hhigh : isHighSurrogate c.toNat = false := by
    simp only [isHighSurrogate, Bool.and_eq_false_iff, decide_eq_false_iff_not]
    omega
  have hlow : isLowSurrogate c.toNat = false := by
    simp only [isLowSurrogate, Bool.and_eq_false_iff, decide_eq_false_iff_not]
    omega
  simp [escape?, hexUnit?, number?_controlDigits _ h, hhigh, hlow]

/-- The characters that are escaped by a letter. -/
def shortEscaped : List Char := ['"', '\\', '\x08', '\x0c', '\n', '\r', '\t']

/-- A character is written as an escape that stands for it, or as itself where that is allowed. -/
theorem escapeChar_cases (c : Char) :
    (∃ escape, escapeChar c = '\\' :: escape ∧
      ∀ text, escape? (escape ++ text) = some (some c, text)) ∨
    (escapeChar c = [c] ∧ c ≠ '"' ∧ c ≠ '\\' ∧ ¬ c.toNat < 0x20) := by
  by_cases hshort : c ∈ shortEscaped
  · simp only [shortEscaped, List.mem_cons, List.not_mem_nil, or_false] at hshort
    rcases hshort with rfl | rfl | rfl | rfl | rfl | rfl | rfl <;>
      exact Or.inl ⟨_, rfl, fun _ => rfl⟩
  · simp only [shortEscaped, List.mem_cons, List.not_mem_nil, or_false, not_or] at hshort
    obtain ⟨hquote, hslash, hrest⟩ := hshort
    by_cases hcontrol : c.toNat < 0x20
    · refine Or.inl ⟨['u', '0', '0', Nat.digitChar (c.toNat / 16), Nat.digitChar (c.toNat % 16)],
        ?_, escape?_control hcontrol⟩
      simp [escapeChar, hquote, hslash, hrest, hcontrol]
    · refine Or.inr ⟨?_, hquote, hslash, hcontrol⟩
      simp [escapeChar, hquote, hslash, hrest, hcontrol]

/-- A character is read from its escaped form. -/
theorem stringBody?_escapeChar (bound : Nat) (c : Char) (text : List Char) :
    stringBody? (bound + 1) (escapeChar c ++ text) =
      (stringBody? bound text).map fun s => (consText (some c) s.1, s.2) := by
  rcases escapeChar_cases c with ⟨escape, hescape, hread⟩ | ⟨hself, hquote, hslash, hcontrol⟩
  · rw [hescape, List.cons_append, stringBody?, if_neg (by decide), if_pos rfl, hread,
      Option.bind_eq_bind, Option.bind_some]
    dsimp only
    cases stringBody? bound text <;> rfl
  · rw [hself, List.singleton_append, stringBody?, if_neg hquote, if_neg hslash, if_neg hcontrol]
    cases stringBody? bound text <;> rfl

theorem stringBody?_append {bound : Nat} (s rest : List Char) (h : s.length < bound) :
    stringBody? bound (s.flatMap escapeChar ++ '"' :: rest) = some (some s, rest) := by
  induction s generalizing bound with
  | nil =>
      obtain ⟨bound, rfl⟩ : ∃ k, bound = k + 1 := Nat.exists_eq_add_one.mpr h
      rfl
  | cons c s ih =>
      rw [List.length_cons] at h
      obtain ⟨bound, rfl⟩ : ∃ k, bound = k + 1 := Nat.exists_eq_add_one.mpr (by omega)
      rw [List.flatMap_cons, List.append_assoc, stringBody?_escapeChar, ih (by omega)]
      rfl

theorem length_le_length_escaped (s : List Char) : s.length ≤ (s.flatMap escapeChar).length := by
  induction s with
  | nil => exact Nat.le_refl 0
  | cons c s ih =>
      have hc : 0 < (escapeChar c).length := by
        rcases escapeChar_cases c with ⟨escape, hescape, -⟩ | ⟨hself, -⟩
        · simp [hescape]
        · simp [hself]
      rw [List.flatMap_cons, List.length_append, List.length_cons]
      omega

theorem string?_append (s : String) (rest : List Char) :
    string? (s.toList.flatMap escapeChar ++ '"' :: rest) = some (some s, rest) := by
  have hlength : s.toList.length <
      (s.toList.flatMap escapeChar ++ '"' :: rest).length + 1 := by
    have hescaped := length_le_length_escaped s.toList
    rw [List.length_append]
    omega
  rw [string?, stringBody?_append _ _ hlength]
  simp

/-! ### Numbers -/

theorem digits?_append {digits rest : List Char} (hne : digits ≠ [])
    (hdigits : ∀ c ∈ digits, c.isDigit) (hrest : EndsNumber rest) :
    digits? (digits ++ rest) = some (digits, rest) := by
  have hstop : rest.takeWhile Char.isDigit = [] ∧ rest.dropWhile Char.isDigit = rest := by
    cases rest with
    | nil => exact ⟨rfl, rfl⟩
    | cons c rest => simp [(hrest c rfl).1]
  rw [digits?, List.takeWhile_append_of_pos hdigits, List.dropWhile_append_of_pos hdigits, hstop.1,
    hstop.2, List.append_nil]
  split
  · contradiction
  · rfl

theorem whole?_toDigits (n : Nat) {rest : List Char} (hrest : EndsNumber rest) :
    whole? (Nat.toDigits 10 n ++ rest) = some (Nat.toDigits 10 n, rest) := by
  have hdigits := digits?_append Nat.toDigits_ne_nil
    (fun c hc => Text.isDigit_of_mem_toDigits (n := n) hc) hrest
  have hzero : ¬ ((Nat.toDigits 10 n).head? = some '0' ∧ (Nat.toDigits 10 n).length ≠ 1) := by
    rintro ⟨hhead, hlength⟩
    obtain rfl := Text.eq_zero_of_head?_toDigits hhead
    exact hlength rfl
  simp only [whole?, hdigits, Option.bind_eq_bind, Option.bind_some, if_neg hzero]

theorem fraction?_of_endsNumber {rest : List Char} (hrest : EndsNumber rest) :
    fraction? rest = some ([], rest) := by
  unfold fraction?
  split
  · exact absurd rfl (hrest '.' rfl).2.1
  · rfl

theorem exponent?_of_endsNumber {rest : List Char} (hrest : EndsNumber rest) :
    exponent? rest = some ([], rest) := by
  cases rest with
  | nil => rfl
  | cons c rest =>
      obtain ⟨-, -, hlower, hupper⟩ := hrest c rfl
      simp [exponent?, hlower, hupper]

/-- Digits behind a sign are a whole number, but for a negative zero. -/
theorem unsigned?_toDigits {negative : Bool} {n : Nat} {rest : List Char}
    (h : negative = true → n ≠ 0) (hrest : EndsNumber rest) :
    unsigned? negative (Nat.toDigits 10 n ++ rest) =
      some (.int (if negative then -(n : Int) else n), rest) := by
  simp only [unsigned?, whole?_toDigits n hrest, fraction?_of_endsNumber hrest,
    exponent?_of_endsNumber hrest, Option.bind_eq_bind, Option.bind_some, Text.numberOf_toDigits]
  rw [if_pos ⟨trivial, trivial, fun hzero => h hzero.1 hzero.2⟩]

theorem number?_renderInt (n : Int) {rest : List Char} (hrest : EndsNumber rest) :
    number? (renderInt n ++ rest) = some (.int n, rest) := by
  cases n with
  | ofNat n =>
      obtain ⟨c, digits, hcons⟩ : ∃ c digits, Nat.toDigits 10 n = c :: digits :=
        List.exists_cons_of_ne_nil Nat.toDigits_ne_nil
      have hdigit : c.isDigit := Text.isDigit_of_mem_toDigits (n := n) (by simp [hcons])
      have hunsigned : number? (renderInt (.ofNat n) ++ rest) =
          unsigned? false (Nat.toDigits 10 n ++ rest) := by
        rw [renderInt, hcons, List.cons_append]
        unfold number?
        split
        · rename_i hminus
          cases hminus
          cases hdigit
        · rfl
      rw [hunsigned, unsigned?_toDigits (by simp) hrest]
      rfl
  | negSucc n =>
      rw [renderInt, List.cons_append, number?, unsigned?_toDigits (by simp) hrest]
      rfl

/-! ### Values -/

/-- The characters that a value other than a number starts with, and those that stand around
values. -/
def nonNumeric : List Char := [' ', '\t', '\n', '\r', 'n', 't', 'f', '"', '[', ']', '\x7b']

theorem isBlank_of_not_mem_nonNumeric {c : Char} (h : c ∉ nonNumeric) : isBlank c = false := by
  simp only [nonNumeric, List.mem_cons, List.not_mem_nil, or_false, not_or] at h
  simp [isBlank, h]

theorem exists_renderInt_eq_cons (n : Int) :
    ∃ c text, renderInt n = c :: text ∧ c ∉ nonNumeric := by
  cases n with
  | ofNat n =>
      obtain ⟨c, digits, hcons⟩ : ∃ c digits, Nat.toDigits 10 n = c :: digits :=
        List.exists_cons_of_ne_nil Nat.toDigits_ne_nil
      have hdigit : c.isDigit := Text.isDigit_of_mem_toDigits (n := n) (by simp [hcons])
      have hnone : nonNumeric.all (!·.isDigit) := by decide
      refine ⟨c, digits, hcons, fun hmem => ?_⟩
      have hother : (!c.isDigit) = true := List.all_eq_true.mp hnone c hmem
      rw [hdigit] at hother
      cases hother
  | negSucc n => exact ⟨'-', _, rfl, by decide⟩

/-- What a value is written with starts neither with a blank nor with a closing bracket. -/
theorem Plain.exists_render_eq_cons {j : Json} (h : j.Plain) :
    ∃ c text, j.render = c :: text ∧ isBlank c = false ∧ c ≠ ']' := by
  cases h with
  | null => exact ⟨_, _, rfl, by decide, by decide⟩
  | bool b => cases b <;> exact ⟨_, _, rfl, by decide, by decide⟩
  | int n =>
      obtain ⟨c, text, hcons, hc⟩ := exists_renderInt_eq_cons n
      refine ⟨c, text, hcons, isBlank_of_not_mem_nonNumeric hc, ?_⟩
      rintro rfl
      exact hc (by decide)
  | text s => exact ⟨_, _, rfl, by decide, by decide⟩
  | array h => exact ⟨_, _, rfl, by decide, by decide⟩
  | record h => exact ⟨_, _, rfl, by decide, by decide⟩

theorem reads_int (n : Int) : (Json.int n).Reads := by
  intro bound rest hbound hrest
  obtain ⟨c, text, hcons, hc⟩ := exists_renderInt_eq_cons n
  have hrender : (Json.int n).render = c :: text := hcons
  have hlength : 0 < (Json.int n).render.length := by simp [hrender]
  obtain ⟨bound, rfl⟩ : ∃ k, bound = k + 1 := Nat.exists_eq_add_one.mpr (by omega)
  have hnumber := number?_renderInt n hrest
  rw [hcons, List.cons_append] at hnumber
  rw [hrender, List.cons_append, value?, skipBlanks_cons (isBlank_of_not_mem_nonNumeric hc)]
  simp only [nonNumeric, List.mem_cons, List.not_mem_nil, or_false, not_or] at hc
  simp [hc, hnumber]

theorem reads_text (s : String) : (Json.text s).Reads := by
  intro bound rest hbound _
  have hlength : 2 ≤ (Json.text s).render.length := by simp [render, renderText]
  obtain ⟨bound, rfl⟩ : ∃ k, bound = k + 1 := Nat.exists_eq_add_one.mpr (by omega)
  have hrender : (Json.text s).render ++ rest =
      '"' :: (s.toList.flatMap escapeChar ++ '"' :: rest) := by
    simp [render, renderText]
  rw [hrender, value?, skipBlanks_cons (by decide)]
  simp [string?_append]

theorem endsNumber_cons {c : Char} (text : List Char)
    (h : c.isDigit = false ∧ c ≠ '.' ∧ c ≠ 'e' ∧ c ≠ 'E') : EndsNumber (c :: text) := by
  intro d hd
  cases hd
  exact h

/-- The items of an array are read up to the closing bracket. The induction follows the items, each
of which takes at least one step of the bound. -/
theorem items?_append {items : List Json} {bound : Nat} {rest : List Char} (hne : items ≠ [])
    (hitems : ∀ item ∈ items, item.Reads) (hbound : 2 * (renderItems items).length + 1 ≤ bound) :
    items? bound (renderItems items ++ ']' :: rest) = some (items, rest) := by
  induction items generalizing bound with
  | nil => exact absurd rfl hne
  | cons item items ih =>
      obtain ⟨bound, rfl⟩ : ∃ k, bound = k + 1 := Nat.exists_eq_add_one.mpr (by omega)
      have hitem : item.Reads := hitems item List.mem_cons_self
      cases items with
      | nil =>
          rw [renderItems] at hbound ⊢
          rw [items?, hitem (by omega) (endsNumber_cons rest (by decide))]
          simp [skipBlanks_cons (c := ']') (by decide)]
      | cons next more =>
          rw [renderItems] at hbound ⊢
          rw [List.length_append, List.length_cons] at hbound
          have hmore : items? bound (renderItems (next :: more) ++ ']' :: rest) =
              some (next :: more, rest) :=
            ih (by simp) (fun j hj => hitems j (List.mem_cons_of_mem _ hj)) (by omega)
          rw [List.append_assoc, List.cons_append, items?,
            hitem (by omega) (endsNumber_cons _ (by decide))]
          simp [skipBlanks_cons (c := ',') (by decide), hmore]

theorem reads_array {items : List Json} (hplain : ∀ item ∈ items, item.Plain)
    (hitems : ∀ item ∈ items, item.Reads) : (Json.array items).Reads := by
  intro bound rest hbound _
  have hlength : (Json.array items).render.length = (renderItems items).length + 2 := by
    simp [render]
  obtain ⟨bound, rfl⟩ : ∃ k, bound = k + 1 := Nat.exists_eq_add_one.mpr (by omega)
  have hrender : (Json.array items).render ++ rest = '[' :: (renderItems items ++ ']' :: rest) := by
    simp [render]
  rw [hrender, value?, skipBlanks_cons (by decide)]
  cases items with
  | nil => simp [renderItems, skipBlanks_cons (c := ']') (by decide)]
  | cons item more =>
      have hread : items? bound (renderItems (item :: more) ++ ']' :: rest) =
          some (item :: more, rest) := items?_append (by simp) hitems (by omega)
      obtain ⟨c, text, hcons, hblank, hclosing⟩ :=
        (hplain item List.mem_cons_self).exists_render_eq_cons
      obtain ⟨text', hstart⟩ : ∃ text', renderItems (item :: more) ++ ']' :: rest = c :: text' := by
        cases more <;> simp [renderItems, hcons]
      rw [hstart] at hread ⊢
      simp [skipBlanks_cons hblank, hclosing, hread]

/-- The members of an object, all with names that denote texts. -/
def namedMembers (members : List (String × Json)) : List (Option String × Json) :=
  members.map fun m => (some m.1, m.2)

theorem namedMembers_cons (name : String) (j : Json) (members : List (String × Json)) :
    namedMembers ((name, j) :: members) = (some name, j) :: namedMembers members := rfl

theorem record_eq (members : List (String × Json)) :
    Json.record members = .object (namedMembers members) := rfl

theorem renderMember_append (name : String) (j : Json) (rest : List Char) :
    renderMember (some name, j) ++ rest =
      '"' :: (name.toList.flatMap escapeChar ++ '"' :: ':' :: (j.render ++ rest)) := by
  simp [renderMember, renderText]

theorem renderMembers_singleton (name : String) (j : Json) :
    renderMembers (namedMembers [(name, j)]) = renderMember (some name, j) := by
  rw [namedMembers, List.map_singleton, renderMembers]

theorem renderMembers_cons_cons (name : String) (j : Json) (next : String × Json)
    (more : List (String × Json)) :
    renderMembers (namedMembers ((name, j) :: next :: more)) =
      renderMember (some name, j) ++ ',' :: renderMembers (namedMembers (next :: more)) := by
  rw [namedMembers_cons, namedMembers_cons, renderMembers]

/-- The members of an object are read up to the closing bracket, as the items of an array are. -/
theorem members?_append {members : List (String × Json)} {bound : Nat} {rest : List Char}
    (hne : members ≠ []) (hmembers : ∀ m ∈ members, m.2.Reads)
    (hbound : 2 * (renderMembers (namedMembers members)).length + 1 ≤ bound) :
    members? bound (renderMembers (namedMembers members) ++ '\x7d' :: rest) =
      some (namedMembers members, rest) := by
  induction members generalizing bound with
  | nil => exact absurd rfl hne
  | cons member members ih =>
      obtain ⟨name, j⟩ := member
      obtain ⟨bound, rfl⟩ : ∃ k, bound = k + 1 := Nat.exists_eq_add_one.mpr (by omega)
      have hj : j.Reads := hmembers (name, j) List.mem_cons_self
      have hlength : j.render.length ≤ (renderMember (some name, j)).length := by
        rw [renderMember, List.length_append, List.length_cons]
        omega
      cases members with
      | nil =>
          rw [renderMembers_singleton] at hbound ⊢
          have hvalue : value? bound (j.render ++ '\x7d' :: rest) = some (j, '\x7d' :: rest) :=
            hj (by omega) (endsNumber_cons rest (by decide))
          rw [renderMember_append, members?, skipBlanks_cons (by decide)]
          simp [string?_append, hvalue, skipBlanks_cons (c := ':') (by decide),
            skipBlanks_cons (c := '\x7d') (by decide), namedMembers]
      | cons next more =>
          rw [renderMembers_cons_cons] at hbound ⊢
          rw [List.length_append, List.length_cons] at hbound
          have hvalue : ∀ text, value? bound (j.render ++ ',' :: text) = some (j, ',' :: text) :=
            fun text => hj (by omega) (endsNumber_cons text (by decide))
          have hmore : members? bound (renderMembers (namedMembers (next :: more)) ++
              '\x7d' :: rest) = some (namedMembers (next :: more), rest) :=
            ih (by simp) (fun m hm => hmembers m (List.mem_cons_of_mem _ hm)) (by omega)
          rw [List.append_assoc, List.cons_append, renderMember_append, members?,
            skipBlanks_cons (by decide), namedMembers_cons name]
          simp [string?_append, hvalue, hmore, skipBlanks_cons (c := ':') (by decide),
            skipBlanks_cons (c := ',') (by decide)]

theorem reads_record {members : List (String × Json)} (hmembers : ∀ m ∈ members, m.2.Reads) :
    (Json.record members).Reads := by
  intro bound rest hbound _
  have hlength : (Json.record members).render.length =
      (renderMembers (namedMembers members)).length + 2 := by
    simp [record_eq, render]
  obtain ⟨bound, rfl⟩ : ∃ k, bound = k + 1 := Nat.exists_eq_add_one.mpr (by omega)
  have hrender : (Json.record members).render ++ rest =
      '\x7b' :: (renderMembers (namedMembers members) ++ '\x7d' :: rest) := by
    simp [record_eq, render]
  rw [hrender, value?, skipBlanks_cons (by decide)]
  cases members with
  | nil =>
      simp [record_eq, namedMembers, renderMembers, skipBlanks_cons (c := '\x7d') (by decide)]
  | cons member more =>
      obtain ⟨name, j⟩ := member
      have hread : members? bound (renderMembers (namedMembers ((name, j) :: more)) ++
          '\x7d' :: rest) = some (namedMembers ((name, j) :: more), rest) :=
        members?_append (by simp) hmembers (by omega)
      obtain ⟨text, hstart⟩ : ∃ text, renderMembers (namedMembers ((name, j) :: more)) ++
          '\x7d' :: rest = '"' :: text := by
        cases more with
        | nil => exact ⟨_, by rw [renderMembers_singleton, renderMember_append]⟩
        | cons next more =>
            exact ⟨_, by rw [renderMembers_cons_cons, List.append_assoc, renderMember_append]⟩
      rw [hstart] at hread ⊢
      simp [skipBlanks_cons (c := '"') (by decide), hread, record_eq]

theorem Plain.reads {j : Json} (h : j.Plain) : j.Reads := by
  induction h with
  | null =>
      intro bound rest hbound _
      have hlength : Json.null.render.length = 4 := rfl
      obtain ⟨bound, rfl⟩ : ∃ k, bound = k + 1 := Nat.exists_eq_add_one.mpr (by omega)
      rfl
  | bool b =>
      intro bound rest hbound _
      have hlength : 0 < (Json.bool b).render.length := by cases b <;> decide
      obtain ⟨bound, rfl⟩ : ∃ k, bound = k + 1 := Nat.exists_eq_add_one.mpr (by omega)
      cases b <;> rfl
  | int n => exact reads_int n
  | text s => exact reads_text s
  | array hplain ih => exact reads_array hplain ih
  | record _ ih => exact reads_record ih

/-- A value is read back from its text. -/
theorem Plain.parse?_toText {j : Json} (h : j.Plain) : parse? j.toText = some j := by
  have hread : value? (2 * j.render.length + 2) (j.render ++ []) = some (j, []) :=
    h.reads (by omega) endsNumber_nil
  rw [List.append_nil] at hread
  simp only [parse?, toText, String.toList_ofList, hread, Option.bind_eq_bind, Option.bind_some]
  rfl

end SymbolNav.Json
