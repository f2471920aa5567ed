import Mathlib.Computability.Language
import Mathlib.Data.List.TakeWhile
import SymbolNav.Navigation.DocReference

/-!
# The references that documentation may name

References are given here a second time, as a regular language: a qualified name is words with dots
between them, a member follows a number sign and may have parentheses, and a token is a qualified
name, a member of it, or a member alone. The language says which tokens there are; `parse?` also
takes them apart. Reading and writing are then inverse to each other between the tokens of the
language and the references that are well formed.

The word characters hold none of the four characters that separate the parts of a token. All that
is said of where a token can be cut rests on that.
-/

open scoped Computability

namespace SymbolNav.DocReference

/-! ### The language of references -/

/-- The texts of one word character. -/
def wordCharacter : Language Char := {text | ∃ c, Text.isWordChar c ∧ text = [c]}

def word : Language Char := wordCharacter * wordCharacter∗

/-- Words with a dot behind each but the last. -/
def qualifiedName : Language Char := (word * {['.']})∗ * word

/-- A number sign, a word, and parentheses or nothing. -/
def memberName : Language Char := {['#']} * word * (1 + {['(', ')']})

def grammar : Language Char := qualifiedName * (1 + memberName) + memberName

/-- A sequence of words, at least one, with dots between them. -/
inductive IsPath : List Char → Prop
  | last {text : List Char} : isWord text → IsPath text
  | more {name text : List Char} : isWord name → IsPath text → IsPath (name ++ '.' :: text)

/-- What a token can say: a path, a member or both, and parentheses only behind a member. -/
structure WellFormed (r : DocReference) : Prop where
  named : r.typeName.isSome ∨ r.member.isSome
  typeName_isPath : ∀ name, r.typeName = some name → IsPath name
  member_isWord : ∀ name, r.member = some name → isWord name
  call : r.mustBeFunction = true → r.member.isSome

/-! ### Words -/

variable {text owner member name token : List Char} {words : List (List Char)} {r : DocReference}

theorem isWordChar_of_separator {c : Char} (h : c ∈ ['.', '#', '(', ')']) :
    Text.isWordChar c = false := by
  have hall : ['.', '#', '(', ')'].all (fun c => !Text.isWordChar c) := by decide +kernel
  simpa using List.all_eq_true.mp hall c h

theorem isWord_iff : isWord text ↔ text ≠ [] ∧ ∀ c ∈ text, Text.isWordChar c := by
  simp [isWord]

theorem not_mem_of_isWord {c : Char} (hc : c ∈ ['.', '#', '(', ')']) (h : isWord text) :
    c ∉ text := by
  intro hmem
  have hword := (isWord_iff.mp h).2 c hmem
  rw [isWordChar_of_separator hc] at hword
  exact Bool.false_ne_true hword

theorem mem_wordCharacter_star : text ∈ wordCharacter∗ ↔ ∀ c ∈ text, Text.isWordChar c := by
  rw [Language.mem_kstar]
  constructor
  · rintro ⟨pieces, rfl, hpieces⟩ c hc
    obtain ⟨piece, hpiece, hmem⟩ := List.mem_flatten.mp hc
    obtain ⟨d, hd, rfl⟩ := hpieces piece hpiece
    rwa [List.mem_singleton.mp hmem]
  · intro h
    refine ⟨text.map ([·]), by rw [← List.flatMap_def, List.flatMap_singleton'], ?_⟩
    intro piece hpiece
    obtain ⟨c, hc, rfl⟩ := List.mem_map.mp hpiece
    exact ⟨c, h c hc, rfl⟩

theorem mem_word_iff : text ∈ word ↔ isWord text := by
  rw [word, Language.mem_mul, isWord_iff]
  constructor
  · rintro ⟨_, ⟨c, hc, rfl⟩, rest, hrest, rfl⟩
    refine ⟨by simp, ?_⟩
    intro d hd
    cases List.mem_cons.mp hd with
    | inl heq => rwa [heq]
    | inr hmem => exact mem_wordCharacter_star.mp hrest d hmem
  · rintro ⟨hne, hall⟩
    cases text with
    | nil => exact absurd rfl hne
    | cons c rest =>
        refine ⟨[c], ⟨c, hall c List.mem_cons_self, rfl⟩, rest, ?_, rfl⟩
        exact mem_wordCharacter_star.mpr fun d hd => hall d (List.mem_cons_of_mem c hd)

/-! ### Qualified names -/

theorem isPath_intercalate (hne : words ≠ []) (h : ∀ w ∈ words, isWord w) :
    IsPath (['.'].intercalate words) := by
  induction words with
  | nil => exact absurd rfl hne
  | cons w rest ih =>
      have hw := h w List.mem_cons_self
      cases rest with
      | nil => simpa using IsPath.last hw
      | cons next rest =>
          have htail := ih (by simp) fun v hv => h v (List.mem_cons_of_mem w hv)
          simpa [List.intercalate_cons_cons] using IsPath.more hw htail

theorem IsPath.exists_words (h : IsPath text) :
    ∃ words, words ≠ [] ∧ (∀ w ∈ words, isWord w) ∧ ['.'].intercalate words = text := by
  induction h with
  | @last text htext => exact ⟨[text], by simp, by simpa using htext, by simp⟩
  | @more name text hname _ ih =>
      obtain ⟨words, hne, hwords, rfl⟩ := ih
      obtain ⟨first, rest, rfl⟩ := List.exists_cons_of_ne_nil hne
      refine ⟨name :: first :: rest, by simp, ?_, by simp [List.intercalate_cons_cons]⟩
      exact List.forall_mem_cons.mpr ⟨hname, hwords⟩

theorem isQualified_iff : isQualified text ↔ IsPath text := by
  rw [isQualified, List.all_eq_true]
  constructor
  · intro h
    have hpath := isPath_intercalate (List.splitOn_ne_nil _ _) h
    rwa [List.intercalate_splitOn] at hpath
  · intro h
    obtain ⟨words, hne, hwords, rfl⟩ := h.exists_words
    have hfree : ∀ w ∈ words, '.' ∉ w := fun w hw =>
      not_mem_of_isWord (by decide) (hwords w hw)
    rwa [List.splitOn_intercalate '.' hfree hne]

theorem IsPath.ne_nil (h : IsPath text) : text ≠ [] := by
  cases h with
  | last htext => exact (isWord_iff.mp htext).1
  | more hname _ => simp

theorem IsPath.not_mem (h : IsPath text) : '#' ∉ text := by
  induction h with
  | last htext => exact not_mem_of_isWord (by decide) htext
  | more hname _ ih =>
      have hfree := not_mem_of_isWord (c := '#') (by decide) hname
      simp [hfree, ih]

theorem mem_qualifiedName_iff : text ∈ qualifiedName ↔ IsPath text := by
  rw [qualifiedName, Language.mem_mul]
  constructor
  · rintro ⟨_, ⟨pieces, rfl, hpieces⟩, last, hlast, rfl⟩
    induction pieces with
    | nil => exact IsPath.last (mem_word_iff.mp hlast)
    | cons piece pieces ih =>
        obtain ⟨⟨name, hname, _, rfl, rfl⟩, hrest⟩ := List.forall_mem_cons.mp hpieces
        simpa using IsPath.more (mem_word_iff.mp hname) (ih hrest)
  · intro h
    induction h with
    | @last text htext =>
        exact ⟨[], Language.nil_mem_kstar _, text, mem_word_iff.mpr htext, rfl⟩
    | @more name text hname _ ih =>
        obtain ⟨_, ⟨pieces, rfl, hpieces⟩, last, hlast, rfl⟩ := ih
        have hpiece : name ++ ['.'] ∈ word * {['.']} :=
          Language.append_mem_mul (mem_word_iff.mpr hname) rfl
        have hfront := Language.join_mem_kstar (List.forall_mem_cons.mpr ⟨hpiece, hpieces⟩)
        exact ⟨_, hfront, last, hlast, by simp⟩

/-! ### Members -/

theorem splitCall_append (h : isWord name) (isCall : Bool) :
    splitCall (name ++ if isCall then ['(', ')'] else []) = (name, isCall) := by
  cases isCall with
  | true => simp [splitCall]
  | false =>
      have hfree : ')' ∉ name.reverse := by
        rw [List.mem_reverse]
        exact not_mem_of_isWord (by decide) h
      rw [splitCall]
      split
      · next hreverse => simp_all
      · simp

theorem append_splitCall (member : List Char) :
    (splitCall member).1 ++ (if (splitCall member).2 then ['(', ')'] else []) = member := by
  rw [splitCall]
  split
  · next name hreverse =>
      rw [← List.reverse_reverse member, hreverse]
      simp
  · simp

theorem mem_memberName_iff :
    text ∈ memberName ↔ ∃ (name : List Char) (isCall : Bool), isWord name ∧
      text = '#' :: (name ++ if isCall then ['(', ')'] else []) := by
  rw [memberName, Language.mem_mul]
  constructor
  · rintro ⟨_, hfront, call, hcall, rfl⟩
    obtain ⟨_, rfl, name, hname, rfl⟩ := Language.mem_mul.mp hfront
    cases (Language.mem_add _ _ _).mp hcall with
    | inl hnone =>
        refine ⟨name, false, mem_word_iff.mp hname, ?_⟩
        rw [(Language.mem_one call).mp hnone]
        simp
    | inr hsome =>
        refine ⟨name, true, mem_word_iff.mp hname, ?_⟩
        rw [show call = ['(', ')'] from hsome]
        simp
  · rintro ⟨name, isCall, hname, rfl⟩
    refine ⟨'#' :: name, ?_, if isCall then ['(', ')'] else [], ?_, by simp⟩
    · exact ⟨['#'], rfl, name, mem_word_iff.mpr hname, rfl⟩
    · cases isCall with
      | true => exact (Language.mem_add _ _ _).mpr (Or.inr rfl)
      | false => exact (Language.mem_add _ _ _).mpr (Or.inl rfl)

theorem mem_grammar_iff :
    token ∈ grammar ↔ IsPath token ∨ ∃ (owner name : List Char) (isCall : Bool),
      (owner = [] ∨ IsPath owner) ∧ isWord name ∧
        token = owner ++ '#' :: (name ++ if isCall then ['(', ')'] else []) := by
  rw [grammar, Language.mem_add, Language.mem_mul]
  constructor
  · rintro (⟨owner, howner, rest, hrest, rfl⟩ | hmember)
    · rw [mem_qualifiedName_iff] at howner
      cases (Language.mem_add _ _ _).mp hrest with
      | inl hnone =>
          rw [(Language.mem_one rest).mp hnone, List.append_nil]
          exact Or.inl howner
      | inr hsome =>
          obtain ⟨name, isCall, hname, rfl⟩ := mem_memberName_iff.mp hsome
          exact Or.inr ⟨owner, name, isCall, Or.inr howner, hname, rfl⟩
    · obtain ⟨name, isCall, hname, rfl⟩ := mem_memberName_iff.mp hmember
      exact Or.inr ⟨[], name, isCall, Or.inl rfl, hname, rfl⟩
  · rintro (hpath | ⟨owner, name, isCall, howner, hname, rfl⟩)
    · exact Or.inl ⟨token, mem_qualifiedName_iff.mpr hpath, [], Or.inl rfl, List.append_nil _⟩
    · have hmember := mem_memberName_iff.mpr ⟨name, isCall, hname, rfl⟩
      cases howner with
      | inl hempty =>
          rw [hempty]
          exact Or.inr hmember
      | inr hpath => exact Or.inl ⟨owner, mem_qualifiedName_iff.mpr hpath, _, Or.inr hmember, rfl⟩

/-! ### Reading and writing -/

theorem parse?_of_not_mem (h : '#' ∉ token) :
    parse? token = if isQualified token then some ⟨some token, none, false⟩ else none := by
  have hall : ∀ c ∈ token, decide (c ≠ '#') = true := fun c hc =>
    decide_eq_true fun heq => h (heq ▸ hc)
  rw [parse?, List.dropWhile_eq_nil_iff.mpr hall, List.takeWhile_eq_self_iff.mpr hall]

theorem parse?_append (h : '#' ∉ owner) :
    parse? (owner ++ '#' :: member) =
      if isWord (splitCall member).1 && (owner = [] || isQualified owner) then
        some ⟨if owner = [] then none else some owner, some (splitCall member).1,
          (splitCall member).2⟩
      else none := by
  have hall : ∀ c ∈ owner, decide (c ≠ '#') = true := fun c hc =>
    decide_eq_true fun heq => h (heq ▸ hc)
  rw [parse?, List.dropWhile_append_of_pos hall, List.takeWhile_append_of_pos hall]
  simp

theorem wellFormed_path (h : IsPath token) : WellFormed ⟨some token, none, false⟩ where
  named := Or.inl rfl
  typeName_isPath := by
    intro name hname
    cases hname
    exact h
  member_isWord := by simp
  call := by simp

theorem wellFormed_member (howner : owner = [] ∨ IsPath owner) (hname : isWord name)
    (isCall : Bool) :
    WellFormed ⟨if owner = [] then none else some owner, some name, isCall⟩ where
  named := Or.inr rfl
  typeName_isPath := by
    intro path hpath
    split at hpath
    · cases hpath
    · next hne =>
        cases hpath
        exact howner.resolve_left hne
  member_isWord := by
    intro word hword
    cases hword
    exact hname
  call := fun _ => rfl

/-- The references that are well formed are those of the two shapes of a token. -/
theorem WellFormed.cases (h : r.WellFormed) :
    (∃ path, IsPath path ∧ r = ⟨some path, none, false⟩) ∨
      ∃ owner name isCall, (owner = [] ∨ IsPath owner) ∧ isWord name ∧
        r = ⟨if owner = [] then none else some owner, some name, isCall⟩ := by
  obtain ⟨typeName, member, isCall⟩ := r
  cases member with
  | none =>
      cases typeName with
      | none => simpa using h.named
      | some path =>
          have hcall : isCall = false := by
            cases isCall with
            | false => rfl
            | true => simpa using h.call rfl
          rw [hcall]
          exact Or.inl ⟨path, h.typeName_isPath path rfl, rfl⟩
  | some name =>
      have hname := h.member_isWord name rfl
      cases typeName with
      | none => exact Or.inr ⟨[], name, isCall, Or.inl rfl, hname, rfl⟩
      | some path =>
          have hpath := h.typeName_isPath path rfl
          exact Or.inr ⟨path, name, isCall, Or.inr hpath, hname, by simp [hpath.ne_nil]⟩

theorem render_member (owner name : List Char) (isCall : Bool) :
    render ⟨if owner = [] then none else some owner, some name, isCall⟩ =
      owner ++ '#' :: (name ++ if isCall then ['(', ')'] else []) := by
  by_cases h : owner = [] <;> simp [render, h]

theorem parse?_render (h : r.WellFormed) : parse? r.render = some r := by
  obtain ⟨path, hpath, rfl⟩ | ⟨owner, name, isCall, howner, hname, rfl⟩ := h.cases
  · have hrender : render ⟨some path, none, false⟩ = path := by simp [render]
    rw [hrender, parse?_of_not_mem hpath.not_mem, if_pos (isQualified_iff.mpr hpath)]
  · have hfree : '#' ∉ owner := by
      cases howner with
      | inl hempty => simp [hempty]
      | inr hpath => exact hpath.not_mem
    have howner' : (owner = [] || isQualified owner) = true := by
      simpa [isQualified_iff] using howner
    rw [render_member, parse?_append hfree, splitCall_append hname, hname, howner']
    simp

theorem wellFormed_of_parse? (h : parse? token = some r) : r.WellFormed ∧ r.render = token := by
  by_cases hmem : '#' ∈ token
  · obtain ⟨owner, member, rfl, hfree⟩ := List.eq_append_cons_of_mem hmem
    rw [parse?_append hfree] at h
    obtain ⟨hcond, hr⟩ := Option.ite_none_right_eq_some.mp h
    obtain ⟨hname, howner⟩ := (Bool.and_eq_true _ _).mp hcond
    have howner' : owner = [] ∨ IsPath owner := by
      simpa [isQualified_iff] using howner
    cases hr
    refine ⟨wellFormed_member howner' hname _, ?_⟩
    rw [render_member, append_splitCall]
  · rw [parse?_of_not_mem hmem] at h
    obtain ⟨hpath, hr⟩ := Option.ite_none_right_eq_some.mp h
    cases hr
    exact ⟨wellFormed_path (isQualified_iff.mp hpath), by simp [render]⟩

theorem mem_grammar_iff_exists : token ∈ grammar ↔ ∃ r, WellFormed r ∧ r.render = token := by
  rw [mem_grammar_iff]
  constructor
  · rintro (hpath | ⟨owner, name, isCall, howner, hname, rfl⟩)
    · exact ⟨_, wellFormed_path hpath, by simp [render]⟩
    · exact ⟨_, wellFormed_member howner hname isCall, render_member owner name isCall⟩
  · rintro ⟨r, hr, rfl⟩
    obtain ⟨path, hpath, rfl⟩ | ⟨owner, name, isCall, howner, hname, rfl⟩ := hr.cases
    · exact Or.inl (by simpa [render] using hpath)
    · exact Or.inr ⟨owner, name, isCall, howner, hname, render_member owner name isCall⟩

/-- Reading accepts exactly the tokens of the grammar and loses nothing: what is read from a token
is well formed and is written as that token, and each reference that is well formed is read back
from what is written for it. -/
theorem parse?_reads_exactly_the_grammar :
    (∀ c ∈ ['.', '#', '(', ')'], Text.isWordChar c = false) ∧
      (∀ token, (parse? token).isSome ↔ token ∈ grammar) ∧
      (∀ token r, parse? token = some r → r.WellFormed ∧ r.render = token) ∧
      ∀ r, r.WellFormed → parse? r.render = some r := by
  refine ⟨fun c => isWordChar_of_separator, ?_, fun token r => wellFormed_of_parse?,
    fun r => parse?_render⟩
  intro token
  rw [mem_grammar_iff_exists, Option.isSome_iff_exists]
  constructor
  · rintro ⟨r, hr⟩
    exact ⟨r, wellFormed_of_parse? hr⟩
  · rintro ⟨r, hr, rfl⟩
    exact ⟨r, parse?_render hr⟩

/-- A member of a type in a package, in letters of two scripts. -/
def sample : DocReference :=
  ⟨some "игры.Größe_2".toList, some "länge".toList, true⟩

theorem wellFormed_sample : sample.WellFormed where
  named := Or.inl rfl
  typeName_isPath := by
    intro name hname
    cases hname
    exact isQualified_iff.mp (by decide +kernel)
  member_isWord := by
    intro name hname
    cases hname
    decide +kernel
  call := fun _ => rfl

theorem parse?_reads_exactly_the_grammar_of_sample :
    sample.WellFormed ∧ parse? "игры.Größe_2#länge()".toList = some sample ∧
      "игры.Größe_2#länge()".toList ∈ grammar ∧ "игры..Größe_2#länge()".toList ∉ grammar := by
  obtain ⟨_, haccepts, _, hreads⟩ := parse?_reads_exactly_the_grammar
  have hrender : sample.render = "игры.Größe_2#länge()".toList := by decide +kernel
  have hread := hreads sample wellFormed_sample
  rw [hrender] at hread
  refine ⟨wellFormed_sample, hread, ?_, ?_⟩
  · rw [← haccepts, hread]
    rfl
  · rw [← haccepts]
    decide +kernel

end SymbolNav.DocReference
