import Mathlib.Data.List.Nodup
import SymbolNav.Snapshot.Splice

/-!
# The cue that governs an offset

`OffsetCue.Governs` picks a cue for an offset out of cues in any order: the one that starts last
among those that have started, and of several that start together the one given last. On cues in
order this is what `governing?` finds, and sorting them changes nothing about it, since cues that
start together keep their order. A splice made with `ofCues` therefore shifts each offset by its
governing cue.
-/

namespace SymbolNav

namespace OffsetCue

/-- The cues stand in the order of their offsets. -/
def InOrder (cues : List OffsetCue) : Prop :=
  cues.Pairwise fun a b => a.start ≤ b.start

/-- No two cues start together. -/
def Distinct (cues : List OffsetCue) : Prop :=
  (cues.map (·.start)).Nodup

/-- No other cue starts between the cue and the offset, and it is the last one with its start. -/
structure Governs (cue : OffsetCue) (cues : List OffsetCue) (offset : Nat) : Prop where
  started : cue.start ≤ offset
  greatest : ∀ c ∈ cues, c.start ≤ offset → c.start ≤ cue.start
  last : (cues.filter (·.start = cue.start)).getLast? = some cue

instance (cues : List OffsetCue) : Decidable (InOrder cues) :=
  inferInstanceAs (Decidable (List.Pairwise _ _))

instance (cues : List OffsetCue) : Decidable (Distinct cues) :=
  inferInstanceAs (Decidable (List.Nodup _))

instance (cue : OffsetCue) (cues : List OffsetCue) (offset : Nat) :
    Decidable (cue.Governs cues offset) :=
  decidable_of_iff (cue.start ≤ offset ∧ (∀ c ∈ cues, c.start ≤ offset → c.start ≤ cue.start) ∧
      (cues.filter (·.start = cue.start)).getLast? = some cue)
    ⟨fun h => ⟨h.1, h.2.1, h.2.2⟩, fun h => ⟨h.started, h.greatest, h.last⟩⟩

variable {cue other : OffsetCue} {cues others : List OffsetCue} {offset : Nat}

namespace Governs

theorem mem (h : cue.Governs cues offset) : cue ∈ cues :=
  List.mem_of_mem_filter (List.mem_of_getLast? h.last)

theorem unique (h : cue.Governs cues offset) (h' : other.Governs cues offset) : cue = other := by
  have hstart : cue.start = other.start :=
    Nat.le_antisymm (h'.greatest cue h.mem h.started) (h.greatest other h'.mem h'.started)
  have hlast := h.last
  rw [hstart, h'.last] at hlast
  exact (Option.some.inj hlast).symm

end Governs

/-- Where cues start at different offsets there are no ties. -/
theorem governs_iff_of_distinct (hdistinct : Distinct cues) :
    cue.Governs cues offset ↔
      cue ∈ cues ∧ cue.start ≤ offset ∧ ∀ c ∈ cues, c.start ≤ offset → c.start ≤ cue.start := by
  constructor
  · exact fun h => ⟨h.mem, h.started, h.greatest⟩
  · rintro ⟨hmem, hstarted, hgreatest⟩
    refine ⟨hstarted, hgreatest, ?_⟩
    have hcue : cue ∈ cues.filter (·.start = cue.start) := by simp [hmem]
    obtain ⟨found, hfound⟩ := Option.isSome_iff_exists.mp
      (List.getLast?_isSome.mpr (List.ne_nil_of_mem hcue))
    have hmember := List.mem_filter.mp (List.mem_of_getLast? hfound)
    have hsame : found = cue :=
      List.inj_on_of_nodup_map hdistinct hmember.1 hmem (of_decide_eq_true hmember.2)
    rw [hfound, hsame]

theorem governs_iff_of_perm (hdistinct : Distinct cues) (hperm : others.Perm cues) :
    cue.Governs others offset ↔ cue.Governs cues offset := by
  have hothers : Distinct others := (hperm.map _).nodup_iff.mpr hdistinct
  simp only [governs_iff_of_distinct hothers, governs_iff_of_distinct hdistinct, hperm.mem_iff]

/-! ### Cues in order -/

theorem start_le_trans (a b c : OffsetCue) (hab : decide (a.start ≤ b.start) = true)
    (hbc : decide (b.start ≤ c.start) = true) : decide (a.start ≤ c.start) = true := by
  simp only [decide_eq_true_eq] at *
  omega

theorem start_le_total (a b : OffsetCue) :
    (decide (a.start ≤ b.start) || decide (b.start ≤ a.start)) = true := by
  simp only [Bool.or_eq_true, decide_eq_true_eq]
  omega

/-- In order, the cues that have started stand in front of all others. -/
theorem InOrder.takeWhile_eq_filter (h : InOrder cues) (offset : Nat) :
    cues.takeWhile (·.start ≤ offset) = cues.filter (·.start ≤ offset) := by
  induction cues with
  | nil => rfl
  | cons first rest ih =>
      obtain ⟨hfirst, hrest⟩ := List.pairwise_cons.mp h
      by_cases hstarted : first.start ≤ offset
      · rw [List.takeWhile_cons_of_pos (by simpa using hstarted),
          List.filter_cons_of_pos (by simpa using hstarted), ih hrest]
      · rw [List.takeWhile_cons_of_neg (by simpa using hstarted), eq_comm, List.filter_eq_nil_iff]
        intro c hc
        have hle : first.start ≤ c.start := by
          rcases List.mem_cons.mp hc with rfl | hc
          · exact Nat.le_refl _
          · exact hfirst c hc
        simp only [decide_eq_true_eq]
        omega

/-- In order, the last of the cues that have started governs. -/
theorem InOrder.governs_of_getLast? (h : InOrder cues)
    (hlast : (cues.filter (·.start ≤ offset)).getLast? = some cue) : cue.Governs cues offset := by
  have hmem := List.mem_filter.mp (List.mem_of_getLast? hlast)
  have hstarted : cue.start ≤ offset := of_decide_eq_true hmem.2
  obtain ⟨front, hfront⟩ := List.getLast?_eq_some_iff.mp hlast
  have hordered : (front ++ [cue]).Pairwise fun a b => a.start ≤ b.start :=
    hfront ▸ h.sublist List.filter_sublist
  refine ⟨hstarted, ?_, ?_⟩
  · intro c hc hle
    have hmember : c ∈ front ++ [cue] := hfront ▸ List.mem_filter.mpr ⟨hc, decide_eq_true hle⟩
    rcases List.mem_append.mp hmember with hc | hc
    · exact (List.pairwise_append.mp hordered).2.2 c hc cue List.mem_cons_self
    · exact Nat.le_of_eq (congrArg OffsetCue.start (List.mem_singleton.mp hc))
  · -- The cues with this start are among those that have started.
    have hfilter : cues.filter (·.start = cue.start) =
        (cues.filter (·.start ≤ offset)).filter (·.start = cue.start) := by
      rw [List.filter_filter]
      refine List.filter_congr fun c _ => ?_
      by_cases hstart : c.start = cue.start <;> simp [hstart, hstarted]
    rw [hfilter, hfront, List.filter_append]
    simp

end OffsetCue

namespace IncludeSplice

open OffsetCue

variable {s : IncludeSplice} {parent : Path} {cue : OffsetCue} {cues others : List OffsetCue}
variable {offset n : Nat}

theorem governing?_eq_none_iff (h : InOrder s.cues) :
    s.governing? offset = none ↔ ∀ cue ∈ s.cues, offset < cue.start := by
  rw [governing?, h.takeWhile_eq_filter, List.getLast?_eq_none_iff, List.filter_eq_nil_iff]
  simp

/-- On cues in order the look-up finds the governing one. -/
theorem governing?_eq_some_iff (h : InOrder s.cues) :
    s.governing? offset = some cue ↔ cue.Governs s.cues offset := by
  have hfinds : ∀ {cue}, s.governing? offset = some cue → cue.Governs s.cues offset := by
    intro cue hcue
    rw [governing?, h.takeWhile_eq_filter] at hcue
    exact h.governs_of_getLast? hcue
  constructor
  · exact hfinds
  · intro hgoverns
    cases hfound : s.governing? offset with
    | none =>
        have hlate := (governing?_eq_none_iff h).mp hfound cue hgoverns.mem
        exact absurd hgoverns.started (Nat.not_le.mpr hlate)
    | some found => rw [hgoverns.unique (hfinds hfound)]

/-! ### Sorted cues -/

theorem inOrder_ofCues (parent : Path) (cues : List OffsetCue) :
    InOrder (ofCues parent cues).cues :=
  (List.pairwise_mergeSort start_le_trans start_le_total cues).imp of_decide_eq_true

theorem perm_ofCues (parent : Path) (cues : List OffsetCue) :
    (ofCues parent cues).cues.Perm cues :=
  List.mergeSort_perm _ _

/-- Cues that start together keep their order when they are sorted. -/
theorem filter_start_ofCues (parent : Path) (cues : List OffsetCue) (start : Nat) :
    (ofCues parent cues).cues.filter (·.start = start) = cues.filter (·.start = start) := by
  have htogether : (cues.filter (·.start = start)).Pairwise
      fun a b => decide (a.start ≤ b.start) = true := by
    refine List.pairwise_of_forall_mem_list fun a ha b hb => decide_eq_true ?_
    have hstart := of_decide_eq_true (List.mem_filter.mp ha).2
    have hstart' := of_decide_eq_true (List.mem_filter.mp hb).2
    omega
  have hsublist : (cues.filter (·.start = start)).Sublist (ofCues parent cues).cues :=
    List.sublist_mergeSort start_le_trans start_le_total htogether List.filter_sublist
  have hfiltered := hsublist.filter (·.start = start)
  rw [List.filter_filter] at hfiltered
  simp only [Bool.and_self] at hfiltered
  exact (hfiltered.eq_of_length ((perm_ofCues parent cues).filter _).length_eq.symm).symm

/-- Sorting changes nothing about which cue governs. -/
theorem governs_ofCues_iff : cue.Governs (ofCues parent cues).cues offset ↔
    cue.Governs cues offset := by
  have hmem : ∀ c, c ∈ (ofCues parent cues).cues ↔ c ∈ cues := fun _ =>
    (perm_ofCues parent cues).mem_iff
  constructor
  · rintro ⟨hstarted, hgreatest, hlast⟩
    rw [filter_start_ofCues] at hlast
    exact ⟨hstarted, fun c hc => hgreatest c ((hmem c).mpr hc), hlast⟩
  · rintro ⟨hstarted, hgreatest, hlast⟩
    refine ⟨hstarted, fun c hc => hgreatest c ((hmem c).mp hc), ?_⟩
    rw [filter_start_ofCues, hlast]

theorem governing?_ofCues_eq_some_iff :
    (ofCues parent cues).governing? offset = some cue ↔ cue.Governs cues offset := by
  rw [governing?_eq_some_iff (inOrder_ofCues parent cues), governs_ofCues_iff]

theorem governing?_ofCues_eq_none_iff :
    (ofCues parent cues).governing? offset = none ↔ ∀ cue ∈ cues, offset < cue.start := by
  rw [governing?_eq_none_iff (inOrder_ofCues parent cues)]
  simp only [(perm_ofCues parent cues).mem_iff]

/-- Some cue governs each offset at or behind the start of a cue. -/
theorem exists_governs (h : ∃ cue ∈ cues, cue.start ≤ offset) :
    ∃ cue : OffsetCue, cue.Governs cues offset := by
  obtain ⟨early, hearly, hstarted⟩ := h
  cases hfound : (ofCues ⟨""⟩ cues).governing? offset with
  | none =>
      have hlate := governing?_ofCues_eq_none_iff.mp hfound early hearly
      exact absurd hstarted (Nat.not_le.mpr hlate)
  | some cue => exact ⟨cue, governing?_ofCues_eq_some_iff.mp hfound⟩

/-! ### Shifted offsets -/

/-- Offsets are shifted alike where the same cue is found. -/
theorem toEffective?_congr {s' : IncludeSplice} (h : s.governing? offset = s'.governing? offset) :
    s.toEffective? offset = s'.toEffective? offset := by
  rw [toEffective?, toEffective?, h]

theorem toEffective?_eq_some_iff (h : s.governing? offset = some cue) :
    s.toEffective? offset = some n ↔ (n : Int) = offset + cue.adjustment ∧ n < offsetLimit := by
  simp only [toEffective?, h, Option.bind_some, Option.ite_none_right_eq_some, Option.some.injEq]
  omega

/-- An offset is shifted by the cue that governs it among the given ones, whatever their order, if
the sum is an offset; without such a cue or such a sum there is no shifted offset. Cues that start
at different offsets may be given in any order. -/
theorem toEffective?_by_governing_cue (parent : Path) (cues : List OffsetCue) (offset : Nat) :
    ((∀ cue ∈ cues, offset < cue.start) → (ofCues parent cues).toEffective? offset = none) ∧
      ((∃ cue ∈ cues, cue.start ≤ offset) → ∃! cue : OffsetCue, cue.Governs cues offset) ∧
      (∀ (cue : OffsetCue) (sum : Int), cue.Governs cues offset → sum = offset + cue.adjustment →
        (0 ≤ sum → sum < offsetLimit →
          ∃ n : Nat, sum = n ∧ (ofCues parent cues).toEffective? offset = some n) ∧
        (sum < 0 ∨ offsetLimit ≤ sum → (ofCues parent cues).toEffective? offset = none)) ∧
      (∀ others, others.Perm cues → Distinct cues →
        (ofCues parent others).toEffective? offset =
          (ofCues parent cues).toEffective? offset) := by
  refine ⟨?_, ?_, ?_, ?_⟩
  · intro hlate
    rw [toEffective?, governing?_ofCues_eq_none_iff.mpr hlate, Option.bind_none]
  · intro hearly
    obtain ⟨cue, hcue⟩ := exists_governs hearly
    exact ⟨cue, hcue, fun other hother => hother.unique hcue⟩
  · intro cue sum hcue hsum
    have hfound : (ofCues parent cues).governing? offset = some cue :=
      governing?_ofCues_eq_some_iff.mpr hcue
    constructor
    · intro hlow hhigh
      refine ⟨sum.toNat, by omega, (toEffective?_eq_some_iff hfound).mpr ?_⟩
      omega
    · intro hout
      rw [Option.eq_none_iff_forall_ne_some]
      intro n hn
      have hshift := (toEffective?_eq_some_iff hfound).mp hn
      omega
  · intro others hperm hdistinct
    apply toEffective?_congr
    rw [Option.ext_iff]
    intro cue
    rw [governing?_ofCues_eq_some_iff, governing?_ofCues_eq_some_iff,
      governs_iff_of_perm hdistinct hperm]

/-- Out of order, with two cues at one offset and one whose shift leads below zero. -/
def tiedCues : List OffsetCue := [⟨40, 300⟩, ⟨0, -5⟩, ⟨40, 7⟩]

theorem toEffective?_by_governing_cue_of_tie :
    OffsetCue.Governs ⟨40, 7⟩ tiedCues 45 ∧
      (ofCues ⟨"/p/Main.as"⟩ tiedCues).toEffective? 45 = some 52 ∧
      OffsetCue.Governs ⟨40, 7⟩ tiedCues (offsetLimit - 1) ∧
      (ofCues ⟨"/p/Main.as"⟩ tiedCues).toEffective? (offsetLimit - 1) = none ∧
      OffsetCue.Governs ⟨0, -5⟩ tiedCues 3 ∧
      (ofCues ⟨"/p/Main.as"⟩ tiedCues).toEffective? 3 = none := by
  have hinside : OffsetCue.Governs ⟨40, 7⟩ tiedCues 45 := by decide
  have htop : OffsetCue.Governs ⟨40, 7⟩ tiedCues (offsetLimit - 1) := by decide
  have hbelow : OffsetCue.Governs ⟨0, -5⟩ tiedCues 3 := by decide
  have hshift := fun offset =>
    (toEffective?_by_governing_cue ⟨"/p/Main.as"⟩ tiedCues offset).2.2.1
  obtain ⟨n, hn, hshifted⟩ := (hshift 45 _ 52 hinside (by decide)).1 (by decide) (by decide)
  obtain rfl : n = 52 := by omega
  exact ⟨hinside, hshifted, htop, (hshift _ _ _ htop rfl).2 (by decide), hbelow,
    (hshift 3 _ (-2) hbelow (by decide)).2 (by decide)⟩

end IncludeSplice

end SymbolNav
