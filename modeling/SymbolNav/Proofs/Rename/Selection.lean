import Mathlib.Data.List.Nodup
import Mathlib.Data.List.Pairwise
import SymbolNav.Proofs.Rename.Disjoint

/-!
# The kept spans do not depend on the order of the given ones

`IsSelection` says what is kept of some spans without a word about sorting or passing through them.
Only the members of the given list matter in it, and they leave no choice: a span that one selection
keeps starts inside a span of any other selection, and if that one started earlier, then both
selections would keep it and the first would overlap it. Since the pass makes a selection, what it
keeps is the same for every list with the same members.
-/

namespace SymbolNav.Rename

/-- Some of the given spans, one behind the other, such that each given span starts inside one of
them. Of the given spans with one start it is the shortest. -/
structure IsSelection (spans kept : List Span) : Prop where
  given : ∀ k ∈ kept, k ∈ spans
  ordered : kept.Pairwise fun a b => a.stop ≤ b.start
  covering : ∀ s ∈ spans, ∃ k ∈ kept, k.contains s.start
  shortest : ∀ k ∈ kept, ∀ s ∈ spans, s.start = k.start → k.stop ≤ s.stop

section

variable {spans kept kept' : List Span} {k : Span}

/-- Sorting the spans and passing through them once makes a selection. -/
theorem isSelection_disjoint (nonempty : ∀ s ∈ spans, s.start < s.stop) :
    IsSelection spans (disjoint spans) where
  given _ hk := mem_of_mem_disjoint hk
  ordered := pairwise_disjoint fun s hs => Nat.le_of_lt (nonempty s hs)
  covering s hs := exists_disjoint_contains_start hs (nonempty s hs)
  shortest _ hk _ hs hstart := stop_le_of_mem_disjoint nonempty hk hs hstart

namespace IsSelection

theorem starts_increase (nonempty : ∀ s ∈ spans, s.start < s.stop) (h : IsSelection spans kept) :
    kept.Pairwise fun a b => a.start < b.start := by
  refine h.ordered.imp_of_mem fun ha _ hab => ?_
  have hnonempty := nonempty _ (h.given _ ha)
  omega

theorem nodup (nonempty : ∀ s ∈ spans, s.start < s.stop) (h : IsSelection spans kept) :
    kept.Nodup :=
  (h.starts_increase nonempty).imp fun hlt heq => Nat.ne_of_lt hlt (congrArg Span.start heq)

/-- Of two kept spans, one that starts earlier has ended where the other one starts. -/
theorem stop_le_start (nonempty : ∀ s ∈ spans, s.start < s.stop) (h : IsSelection spans kept)
    {a b : Span} (ha : a ∈ kept) (hb : b ∈ kept) (hlt : a.start < b.start) :
    a.stop ≤ b.start := by
  have hapart : kept.Pairwise fun a b => a.stop ≤ b.start ∨ b.stop ≤ a.start :=
    h.ordered.imp Or.inl
  have hne : a ≠ b := fun heq => Nat.ne_of_lt hlt (congrArg Span.start heq)
  have : Std.Symm fun a b : Span => a.stop ≤ b.start ∨ b.stop ≤ a.start := ⟨fun _ _ => Or.symm⟩
  rcases hapart.forall ha hb hne with hab | hba
  · exact hab
  · have hnonempty := nonempty b (h.given b hb)
    omega

/-- The induction is on the start of the span, for both selections at once: an earlier span of one
of them is a span of the other. -/
theorem mem_of_mem (nonempty : ∀ s ∈ spans, s.start < s.stop) (h : IsSelection spans kept)
    (h' : IsSelection spans kept') (hk : k ∈ kept) : k ∈ kept' := by
  induction hstart : k.start using Nat.strongRecOn generalizing kept kept' k with
  | ind start ih =>
      subst hstart
      obtain ⟨k', hk', hcontains⟩ := h'.covering k (h.given k hk)
      obtain ⟨hle, hlt⟩ := Span.contains_iff.mp hcontains
      rcases Nat.lt_or_eq_of_le hle with hearlier | hsame
      · have hboth : k' ∈ kept := ih k'.start hearlier h' h hk' rfl
        have hended := h.stop_le_start nonempty hboth hk hearlier
        omega
      · have hstop := h.shortest k hk k' (h'.given k' hk') hsame
        have hstop' := h'.shortest k' hk' k (h.given k hk) hsame.symm
        have heq : k = k' := by
          cases k
          cases k'
          simp_all only [Span.mk.injEq, true_and]
          omega
        exact heq ▸ hk'

/-- There is one selection of given spans. -/
theorem unique (nonempty : ∀ s ∈ spans, s.start < s.stop) (h : IsSelection spans kept)
    (h' : IsSelection spans kept') : kept = kept' := by
  refine List.Perm.eq_of_pairwise ?_ (h.starts_increase nonempty) (h'.starts_increase nonempty) ?_
  · intro a b _ _ hab hba
    omega
  · refine (List.perm_ext_iff_of_nodup (h.nodup nonempty) (h'.nodup nonempty)).mpr fun s => ?_
    exact ⟨h.mem_of_mem nonempty h', h'.mem_of_mem nonempty h⟩

/-- Neither the order of the given spans nor how often one is given matters. -/
theorem of_mem_iff {others : List Span} (hmembers : ∀ s, s ∈ others ↔ s ∈ spans)
    (h : IsSelection others kept) : IsSelection spans kept where
  given k hk := (hmembers k).mp (h.given k hk)
  ordered := h.ordered
  covering s hs := h.covering s ((hmembers s).mpr hs)
  shortest k hk s hs := h.shortest k hk s ((hmembers s).mpr hs)

end IsSelection

/-- Of spans that are not empty, a maximal set without overlaps is kept that only the set of the
given spans decides: lists with the same members, in any order and with any repetitions, have the
same result, and the result is left as it is. -/
theorem disjoint_is_canonical (nonempty : ∀ s ∈ spans, s.start < s.stop) :
    (∀ k ∈ disjoint spans, k ∈ spans) ∧
      (disjoint spans).Pairwise (fun a b => a.start < b.start ∧ a.stop ≤ b.start) ∧
      (∀ s ∈ spans, s ∈ disjoint spans ∨
        ∃ k ∈ disjoint spans, k.start ≤ s.start ∧ ∃ byte, k.contains byte ∧ s.contains byte) ∧
      (∀ k ∈ disjoint spans, ∀ s ∈ spans, s.start = k.start → k.stop ≤ s.stop) ∧
      (∀ others, (∀ s, s ∈ others ↔ s ∈ spans) → disjoint others = disjoint spans) ∧
      disjoint (disjoint spans) = disjoint spans := by
  have hselection := isSelection_disjoint nonempty
  refine ⟨hselection.given, (hselection.starts_increase nonempty).and hselection.ordered, ?_,
    hselection.shortest, ?_, ?_⟩
  · intro s hs
    obtain ⟨k, hk, hcontains⟩ := hselection.covering s hs
    have hstart : s.contains s.start := Span.contains_iff.mpr ⟨Nat.le_refl _, nonempty s hs⟩
    exact Or.inr ⟨k, hk, (Span.contains_iff.mp hcontains).1, s.start, hcontains, hstart⟩
  · intro others hmembers
    have hothers : IsSelection others (disjoint others) :=
      isSelection_disjoint fun s hs => nonempty s ((hmembers s).mp hs)
    exact (hothers.of_mem_iff hmembers).unique nonempty hselection
  · exact disjoint_eq_self
      (fun k hk => Nat.le_of_lt (nonempty k (hselection.given k hk))) hselection.ordered

end

namespace SelectionSample

/-- Two spans with one start, one that overlaps the shorter of them, one nested in that and given
twice, and one right behind. -/
def spans : List Span := [⟨8, 9⟩, ⟨4, 5⟩, ⟨0, 7⟩, ⟨2, 6⟩, ⟨4, 5⟩, ⟨0, 3⟩, ⟨5, 8⟩]

def kept : List Span := [⟨0, 3⟩, ⟨4, 5⟩, ⟨5, 8⟩, ⟨8, 9⟩]

end SelectionSample

theorem disjoint_is_canonical_of_sample :
    (∀ s ∈ SelectionSample.spans, s.start < s.stop) ∧
      disjoint SelectionSample.spans = SelectionSample.kept ∧
      disjoint SelectionSample.spans.reverse = SelectionSample.kept ∧
      disjoint SelectionSample.kept = SelectionSample.kept := by
  have nonempty : ∀ s ∈ SelectionSample.spans, s.start < s.stop := by decide
  have hkept : disjoint SelectionSample.spans = SelectionSample.kept := by
    refine (isSelection_disjoint nonempty).unique nonempty ⟨?_, ?_, ?_, ?_⟩ <;> decide
  obtain ⟨-, -, -, -, hmembers, hagain⟩ := disjoint_is_canonical nonempty
  refine ⟨nonempty, hkept, ?_, ?_⟩
  · rw [hmembers _ fun _ => List.mem_reverse, hkept]
  · rw [← hkept, hagain]

end SymbolNav.Rename
