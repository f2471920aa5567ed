import SymbolNav.Rename.Disjoint

/-!
# Which spans are kept

One pass over the sorted spans compares each with the last one kept. Since later spans start later,
that is enough: the kept spans follow one another without overlap, and every span that is not kept
starts inside one that is.
-/

namespace SymbolNav.Rename

theorem comesBefore_iff {a b : Span} :
    comesBefore a b ↔ a.start < b.start ∨ a.start = b.start ∧ a.stop ≤ b.stop := by
  simp [comesBefore]

theorem pairwise_comesBefore_mergeSort (spans : List Span) :
    (spans.mergeSort comesBefore).Pairwise (fun a b => comesBefore a b) := by
  apply List.pairwise_mergeSort
  · intro a b c hab hbc
    rw [comesBefore_iff] at *
    omega
  · intro a b
    rw [Bool.or_eq_true, comesBefore_iff, comesBefore_iff]
    omega

theorem keepFrom_sublist (bound : Nat) (spans : List Span) :
    (keepFrom bound spans).Sublist spans := by
  fun_induction keepFrom bound spans with
  | case1 => exact .slnil
  | case2 _ _ _ _ ih => exact ih.cons _
  | case3 _ _ _ _ ih => exact ih.cons_cons _

/-- Only given spans are kept. -/
theorem mem_of_mem_disjoint {spans : List Span} {s : Span} (h : s ∈ disjoint spans) : s ∈ spans :=
  List.mem_mergeSort.mp ((keepFrom_sublist 0 _).subset h)

theorem bound_le_of_mem_keepFrom {bound : Nat} {spans : List Span}
    (upright : ∀ s ∈ spans, s.start ≤ s.stop) {k : Span} (h : k ∈ keepFrom bound spans) :
    bound ≤ k.start := by
  fun_induction keepFrom bound spans with
  | case1 => exact absurd h List.not_mem_nil
  | case2 _ s rest _ ih => exact ih (fun t ht => upright t (List.mem_cons_of_mem _ ht)) h
  | case3 bound s rest hs ih =>
      rcases List.mem_cons.mp h with rfl | h
      · exact Nat.le_of_not_lt hs
      · have hrest := ih (fun t ht => upright t (List.mem_cons_of_mem _ ht)) h
        have hupright := upright s List.mem_cons_self
        omega

theorem pairwise_keepFrom {bound : Nat} {spans : List Span}
    (upright : ∀ s ∈ spans, s.start ≤ s.stop) :
    (keepFrom bound spans).Pairwise (fun a b => a.stop ≤ b.start) := by
  fun_induction keepFrom bound spans with
  | case1 => exact .nil
  | case2 _ _ _ _ ih => exact ih fun t ht => upright t (List.mem_cons_of_mem _ ht)
  | case3 _ _ _ _ ih =>
      have hrest := fun t ht => upright t (List.mem_cons_of_mem _ ht)
      exact List.pairwise_cons.mpr ⟨fun k hk => bound_le_of_mem_keepFrom hrest hk, ih hrest⟩

/-- Each kept span ends where the next one starts, or before. -/
theorem pairwise_disjoint {spans : List Span} (upright : ∀ s ∈ spans, s.start ≤ s.stop) :
    (disjoint spans).Pairwise (fun a b => a.stop ≤ b.start) :=
  pairwise_keepFrom fun s hs => upright s (List.mem_mergeSort.mp hs)

/-- The invariant of the pass: a span in front of the bound has been passed over, any other one
starts inside a span that will be kept. -/
theorem keepFrom_contains_start {bound : Nat} {spans : List Span}
    (sorted : spans.Pairwise (fun a b => comesBefore a b)) {s : Span} (h : s ∈ spans)
    (hs : s.start < s.stop) :
    s.start < bound ∨ ∃ k ∈ keepFrom bound spans, k.contains s.start := by
  fun_induction keepFrom bound spans with
  | case1 => exact absurd h List.not_mem_nil
  | case2 bound t rest ht ih =>
      rcases List.mem_cons.mp h with rfl | h
      · exact Or.inl ht
      · exact ih sorted.of_cons h
  | case3 bound t rest ht ih =>
      rcases List.mem_cons.mp h with rfl | h
      · exact Or.inr ⟨s, List.mem_cons_self, Span.contains_iff.mpr ⟨Nat.le_refl _, hs⟩⟩
      · have hts := comesBefore_iff.mp (List.rel_of_pairwise_cons sorted h)
        rcases ih sorted.of_cons h with hlt | ⟨k, hk, hcontains⟩
        · exact Or.inr ⟨t, List.mem_cons_self, Span.contains_iff.mpr ⟨by omega, hlt⟩⟩
        · exact Or.inr ⟨k, List.mem_cons_of_mem _ hk, hcontains⟩

/-- No span is lost: each one starts inside a kept span, its own if it is kept itself. -/
theorem exists_disjoint_contains_start {spans : List Span} {s : Span} (h : s ∈ spans)
    (hs : s.start < s.stop) : ∃ k ∈ disjoint spans, k.contains s.start := by
  have hsorted := pairwise_comesBefore_mergeSort spans
  rcases keepFrom_contains_start hsorted (List.mem_mergeSort.mpr h) hs with hlt | hkept
  · exact absurd hlt (Nat.not_lt_zero _)
  · exact hkept

theorem stop_le_of_mem_keepFrom {bound : Nat} {spans : List Span}
    (sorted : spans.Pairwise (fun a b => comesBefore a b))
    (nonempty : ∀ s ∈ spans, s.start < s.stop) {k s : Span} (hk : k ∈ keepFrom bound spans)
    (hs : s ∈ spans) (hstart : s.start = k.start) : k.stop ≤ s.stop := by
  fun_induction keepFrom bound spans with
  | case1 => exact absurd hs List.not_mem_nil
  | case2 bound t rest ht ih =>
      obtain ⟨-, hrest⟩ := List.forall_mem_cons.mp nonempty
      have hbound := bound_le_of_mem_keepFrom (fun s hs => Nat.le_of_lt (hrest s hs)) hk
      rcases List.mem_cons.mp hs with rfl | hs
      · omega
      · exact ih sorted.of_cons hrest hk hs
  | case3 bound t rest ht ih =>
      obtain ⟨htop, hrest⟩ := List.forall_mem_cons.mp nonempty
      rcases List.mem_cons.mp hk with rfl | hk
      · rcases List.mem_cons.mp hs with rfl | hs
        · exact Nat.le_refl _
        · have hks := comesBefore_iff.mp (List.rel_of_pairwise_cons sorted hs)
          omega
      · have hbound := bound_le_of_mem_keepFrom (fun s hs => Nat.le_of_lt (hrest s hs)) hk
        rcases List.mem_cons.mp hs with rfl | hs
        · omega
        · exact ih sorted.of_cons hrest hk hs

/-- Of the spans with one start, only the shortest can be kept. -/
theorem stop_le_of_mem_disjoint {spans : List Span} (nonempty : ∀ s ∈ spans, s.start < s.stop)
    {k s : Span} (hk : k ∈ disjoint spans) (hs : s ∈ spans) (hstart : s.start = k.start) :
    k.stop ≤ s.stop :=
  stop_le_of_mem_keepFrom (pairwise_comesBefore_mergeSort spans)
    (fun t ht => nonempty t (List.mem_mergeSort.mp ht)) hk (List.mem_mergeSort.mpr hs) hstart

theorem keepFrom_eq_self {bound : Nat} {spans : List Span}
    (ordered : spans.Pairwise (fun a b => a.stop ≤ b.start))
    (hbound : ∀ s ∈ spans, bound ≤ s.start) : keepFrom bound spans = spans := by
  induction spans generalizing bound with
  | nil => rfl
  | cons s rest ih =>
      obtain ⟨hs, -⟩ := List.forall_mem_cons.mp hbound
      obtain ⟨hrest, ordered⟩ := List.pairwise_cons.mp ordered
      rw [keepFrom, if_neg (Nat.not_lt.mpr hs), ih ordered hrest]

/-- Spans that follow one another without overlap are all kept. -/
theorem disjoint_eq_self {spans : List Span} (upright : ∀ s ∈ spans, s.start ≤ s.stop)
    (ordered : spans.Pairwise (fun a b => a.stop ≤ b.start)) : disjoint spans = spans := by
  have sorted : spans.Pairwise (fun a b => comesBefore a b) := by
    refine ordered.imp_of_mem ?_
    intro a b ha hb hab
    have hstart := upright a ha
    have hstop := upright b hb
    rw [comesBefore_iff]
    omega
  rw [disjoint, List.mergeSort_of_pairwise sorted, keepFrom_eq_self ordered]
  exact fun s _ => Nat.zero_le _

end SymbolNav.Rename
