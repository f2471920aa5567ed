import SymbolNav.Proofs.Snapshot.Cues
import SymbolNav.Proofs.Snapshot.RoundTrip
import SymbolNav.Server.Configuration

/-!
# Cues that have been loaded

A snapshot on disk may list the cues of an include in any order, and they are kept in the order in
which they are read. The look-up counts on cues that stand in order: only then is each cue found at
its own offset. So an include that has been loaded shifts offsets as one made with `ofCues` from the
same cues exactly if the cues stand in order already, as far as different cues shift by different
amounts.
-/

namespace SymbolNav

/-! ### What has been read -/

theorem Json.exists_of_mem_list? {α : Type} {read : Json → Option α} {j : Json} {as : List α}
    (h : j.list? read = some as) {a : α} (ha : a ∈ as) : ∃ item, read item = some a := by
  cases j with
  | array items =>
      change items.mapM read = some as at h
      induction items generalizing as with
      | nil =>
          cases h
          exact absurd ha List.not_mem_nil
      | cons item items ih =>
          rw [List.mapM_cons] at h
          obtain ⟨first, hfirst, h⟩ := Option.bind_eq_some_iff.mp h
          obtain ⟨rest, hrest, h⟩ := Option.bind_eq_some_iff.mp h
          cases h
          rcases List.mem_cons.mp ha with rfl | ha
          · exact ⟨item, hfirst⟩
          · exact ih ha hrest
  | _ => cases h

theorem OffsetCue.start_lt_of_ofJson? {j : Json} {cue : OffsetCue}
    (h : OffsetCue.ofJson? j = some cue) : cue.start < offsetLimit := by
  obtain ⟨r, -, h⟩ := Option.bind_eq_some_iff.mp h
  obtain ⟨start, hstart, h⟩ := Option.bind_eq_some_iff.mp h
  obtain ⟨adjustment, -, h⟩ := Option.bind_eq_some_iff.mp h
  cases h
  obtain ⟨value, -, hvalue⟩ := Option.bind_eq_some_iff.mp hstart
  unfold Json.offset? Json.nat? at hvalue
  split at hvalue
  · split at hvalue
    · rename_i hlt
      cases hvalue
      exact hlt
    · cases hvalue
  · cases hvalue

theorem IncludeSnapshot.start_lt_of_ofJson? {j : Json} {i : IncludeSnapshot}
    (h : IncludeSnapshot.ofJson? j = some i) {cue : OffsetCue} (hcue : cue ∈ i.splice.cues) :
    cue.start < offsetLimit := by
  obtain ⟨⟨own, others⟩, -, h⟩ := Option.bind_eq_some_iff.mp h
  obtain ⟨splice, -, h⟩ := Option.bind_eq_some_iff.mp h
  obtain ⟨path, -, h⟩ := Option.bind_eq_some_iff.mp h
  obtain ⟨parent, -, h⟩ := Option.bind_eq_some_iff.mp h
  obtain ⟨cues, hcues, h⟩ := Option.bind_eq_some_iff.mp h
  cases h
  obtain ⟨value, -, hvalue⟩ := Option.bind_eq_some_iff.mp hcues
  obtain ⟨item, hitem⟩ := Json.exists_of_mem_list? hvalue hcue
  exact OffsetCue.start_lt_of_ofJson? hitem

/-- The cues of a snapshot that has been read start at offsets. -/
theorem Snapshot.start_lt_of_parse? {text : String} {s : Snapshot}
    (h : Snapshot.parse? text = some s) {i : IncludeSnapshot} (hi : i ∈ s.includes)
    {cue : OffsetCue} (hcue : cue ∈ i.splice.cues) : cue.start < offsetLimit := by
  obtain ⟨j, -, h⟩ := Option.bind_eq_some_iff.mp h
  obtain ⟨r, -, h⟩ := Option.bind_eq_some_iff.mp h
  simp only [Option.bind_eq_bind, Option.bind_eq_some_iff] at h
  obtain ⟨_, -, _, -, _, -, _, -, _, -, _, -, _, -, includes, hincludes, h⟩ := h
  cases h
  unfold Record.field? at hincludes
  split at hincludes
  · cases hincludes
    exact absurd hi List.not_mem_nil
  · obtain ⟨item, hitem⟩ := Json.exists_of_mem_list? hincludes hi
    exact IncludeSnapshot.start_lt_of_ofJson? hitem hcue

namespace Project

variable {disk : FileTree} {file path : Path} {p : Project} {s : IncludeSplice}

theorem start_lt_of_load (hload : Project.load disk file = .ok p)
    (hinclude : p.includeSplice? path = some s) {cue : OffsetCue} (hcue : cue ∈ s.cues) :
    cue.start < offsetLimit := by
  obtain ⟨i, hfound, rfl⟩ := Option.map_eq_some_iff.mp hinclude
  have hi : i ∈ p.snapshot.includes := List.mem_reverse.mp (List.mem_of_find?_eq_some hfound)
  unfold Project.load at hload
  split at hload
  · cases hload
  · split at hload
    · cases hload
    · rename_i snapshot hparse
      cases hload
      exact Snapshot.start_lt_of_parse? hparse hi hcue

end Project

/-! ### Cues that are found at their own offsets -/

namespace IncludeSplice

open OffsetCue

variable {s : IncludeSplice}

/-- A list of cues is in order if each one is found at its own offset. The first cue has to be
passed to find any other, and the others are then found among the rest. -/
theorem inOrder_of_found {cues : List OffsetCue} (hdistinct : Distinct cues)
    (h : ∀ cue ∈ cues, (cues.takeWhile (·.start ≤ cue.start)).getLast? = some cue) :
    InOrder cues := by
  induction cues with
  | nil => exact .nil
  | cons first rest ih =>
      obtain ⟨hfresh, hdistinct⟩ := List.nodup_cons.mp hdistinct
      have hbehind : ∀ cue ∈ rest, first.start ≤ cue.start := by
        intro cue hcue
        have hfound := h cue (List.mem_cons_of_mem _ hcue)
        by_contra hlate
        rw [List.takeWhile_cons_of_neg (by simpa using hlate)] at hfound
        cases hfound
      refine List.pairwise_cons.mpr ⟨hbehind, ih hdistinct fun cue hcue => ?_⟩
      have hfound := h cue (List.mem_cons_of_mem _ hcue)
      rw [List.takeWhile_cons_of_pos (by simpa using hbehind cue hcue),
        List.getLast?_cons] at hfound
      cases hrest : (rest.takeWhile (·.start ≤ cue.start)).getLast? with
      | some found => simpa [hrest] using hfound
      | none =>
          have hsame : first = cue := by simpa [hrest] using hfound
          exact absurd (hsame ▸ List.mem_map_of_mem hcue) hfresh

theorem governs_own_start {cue : OffsetCue} (hdistinct : Distinct s.cues) (hcue : cue ∈ s.cues) :
    cue.Governs s.cues cue.start :=
  (governs_iff_of_distinct hdistinct).mpr ⟨hcue, Nat.le_refl _, fun _ _ hle => hle⟩

/-- In order, the same cues are found before and after sorting. -/
theorem governing?_ofCues_of_inOrder (h : InOrder s.cues) (offset : Nat) :
    s.governing? offset = (ofCues s.parent s.cues).governing? offset := by
  rw [Option.ext_iff]
  intro cue
  rw [governing?_eq_some_iff h, governing?_ofCues_eq_some_iff]

/-- Out of order, some cue is not found at its own offset, though it governs it. -/
theorem exists_not_found (hdistinct : Distinct s.cues) (h : ¬ InOrder s.cues) :
    ∃ cue ∈ s.cues, s.governing? cue.start ≠ some cue ∧
      (ofCues s.parent s.cues).governing? cue.start = some cue := by
  by_contra hnone
  refine h (inOrder_of_found hdistinct fun cue hcue => ?_)
  by_contra hmissed
  exact hnone ⟨cue, hcue, hmissed,
    governing?_ofCues_eq_some_iff.mpr (governs_own_start hdistinct hcue)⟩

theorem mem_of_governing? {offset : Nat} {cue : OffsetCue} (h : s.governing? offset = some cue) :
    cue ∈ s.cues :=
  (List.takeWhile_sublist _).subset (List.mem_of_getLast? h)

/-- A cue that is not found at its own offset shows in the shifted offset, if no other cue shifts by
the same amount. -/
theorem toEffective?_ne_of_not_found {cue : OffsetCue}
    (hamounts : (s.cues.map (·.adjustment)).Nodup) (hcue : cue ∈ s.cues)
    (hlow : 0 ≤ cue.start + cue.adjustment) (hhigh : cue.start + cue.adjustment < offsetLimit)
    (hmissed : s.governing? cue.start ≠ some cue) {built : IncludeSplice}
    (hfound : built.governing? cue.start = some cue) :
    s.toEffective? cue.start ≠ built.toEffective? cue.start := by
  have hbuilt : built.toEffective? cue.start = some (cue.start + cue.adjustment).toNat :=
    (toEffective?_eq_some_iff hfound).mpr (by omega)
  rw [hbuilt]
  cases hother : s.governing? cue.start with
  | none => simp [toEffective?, hother]
  | some other =>
      rw [ne_eq, toEffective?_eq_some_iff hother]
      intro hshift
      have hamount : other.adjustment = cue.adjustment := by omega
      have hsame : other = cue :=
        List.inj_on_of_nodup_map hamounts (mem_of_governing? hother) hcue hamount
      exact hmissed (hsame ▸ hother)

end IncludeSplice

namespace Project

open OffsetCue IncludeSplice

variable {disk : FileTree} {file path : Path} {p : Project} {s : IncludeSplice}

/-- The include of a loaded project uses the cue that governs each offset exactly if its cues have
been listed in order, and then it shifts every offset as the include that is made from these cues.
Otherwise there is an offset that is shifted differently, unless two cues shift by the same amount
or some cue shifts its own offset out of range. -/
theorem loaded_cues_govern_iff_inOrder (hload : Project.load disk file = .ok p)
    (hinclude : p.includeSplice? path = some s) (hdistinct : Distinct s.cues) :
    ((∀ offset < offsetLimit,
        s.governing? offset = (ofCues s.parent s.cues).governing? offset) ↔ InOrder s.cues) ∧
      (InOrder s.cues → ∀ offset,
        s.toEffective? offset = (ofCues s.parent s.cues).toEffective? offset) ∧
      (¬ InOrder s.cues → (s.cues.map (·.adjustment)).Nodup →
        (∀ cue ∈ s.cues, 0 ≤ cue.start + cue.adjustment ∧
          cue.start + cue.adjustment < offsetLimit) →
        ∃ offset < offsetLimit,
          s.toEffective? offset ≠ (ofCues s.parent s.cues).toEffective? offset) := by
  refine ⟨⟨?_, ?_⟩, ?_, ?_⟩
  · intro hsame
    by_contra hdisorder
    obtain ⟨cue, hcue, hmissed, hfound⟩ := exists_not_found hdistinct hdisorder
    exact hmissed ((hsame _ (start_lt_of_load hload hinclude hcue)).trans hfound)
  · exact fun horder offset _ => governing?_ofCues_of_inOrder horder offset
  · exact fun horder offset => toEffective?_congr (governing?_ofCues_of_inOrder horder offset)
  · intro hdisorder hamounts hrange
    obtain ⟨cue, hcue, hmissed, hfound⟩ := exists_not_found hdistinct hdisorder
    obtain ⟨hlow, hhigh⟩ := hrange cue hcue
    exact ⟨cue.start, start_lt_of_load hload hinclude hcue,
      toEffective?_ne_of_not_found hamounts hcue hlow hhigh hmissed hfound⟩

namespace CueSample

/-- A snapshot with one include that lists the given cues. -/
def snapshot (cues : List OffsetCue) : Snapshot where
  includes := [⟨⟨"/p/part.as"⟩, ⟨⟨"/p/Main.as"⟩, cues⟩⟩]

/-- The snapshot as the only file. -/
def tree (cues : List OffsetCue) : FileTree where
  files := [([['p']], (snapshot cues).toJson.toText)]

def project (cues : List OffsetCue) : Project :=
  .ofSnapshot (tree cues) (snapshot cues)

theorem read_tree (cues : List OffsetCue) :
    (tree cues).read ⟨"/p"⟩ = .ok (snapshot cues).toJson.toText := by
  with_unfolding_all rfl

theorem load_tree (cues : List OffsetCue) (h : (snapshot cues).isInRange) :
    Project.load (tree cues) ⟨"/p"⟩ = .ok (project cues) := by
  rw [Project.load, read_tree]
  simp only [Snapshot.parse?, (snapshot cues).plain_toJson.parse?_toText, Option.bind_some,
    Snapshot.ofJson?_toJson h, project]

theorem includeSplice?_project (cues : List OffsetCue) :
    (project cues).includeSplice? ⟨"/p/part.as"⟩ = some ⟨⟨"/p/Main.as"⟩, cues⟩ := by
  simp [project, includeSplice?, ofSnapshot, lastWith?, snapshot, Path.same]

def inOrder : List OffsetCue := [⟨0, 100⟩, ⟨40, 300⟩]

/-- The same cues, the later one in front. -/
def outOfOrder : List OffsetCue := [⟨40, 300⟩, ⟨0, 100⟩]

end CueSample

theorem loaded_cues_govern_iff_inOrder_of_sample :
    Project.load (CueSample.tree CueSample.inOrder) ⟨"/p"⟩ =
        .ok (CueSample.project CueSample.inOrder) ∧
      (CueSample.project CueSample.inOrder).includeSplice? ⟨"/p/part.as"⟩ =
        some ⟨⟨"/p/Main.as"⟩, CueSample.inOrder⟩ ∧
      Distinct CueSample.inOrder ∧ InOrder CueSample.inOrder ∧
      ∀ offset, IncludeSplice.toEffective? ⟨⟨"/p/Main.as"⟩, CueSample.inOrder⟩ offset =
        (ofCues ⟨"/p/Main.as"⟩ CueSample.inOrder).toEffective? offset := by
  have hload := CueSample.load_tree CueSample.inOrder (by decide)
  have hinclude := CueSample.includeSplice?_project CueSample.inOrder
  have hdistinct : Distinct CueSample.inOrder := by decide
  have horder : InOrder CueSample.inOrder := by decide
  exact ⟨hload, hinclude, hdistinct, horder,
    (loaded_cues_govern_iff_inOrder hload hinclude hdistinct).2.1 horder⟩

/-- Out of order, an offset behind both cues is shifted by the wrong one, and an offset between them
is not shifted at all. -/
theorem loaded_cues_shift_otherwise :
    ∃ p s, Project.load (CueSample.tree CueSample.outOfOrder) ⟨"/p"⟩ = .ok p ∧
      p.includeSplice? ⟨"/p/part.as"⟩ = some s ∧ Distinct s.cues ∧
      OffsetCue.Governs ⟨40, 300⟩ s.cues 50 ∧ s.toEffective? 50 = some 150 ∧
      (ofCues s.parent s.cues).toEffective? 50 = some 350 ∧
      OffsetCue.Governs ⟨0, 100⟩ s.cues 39 ∧ s.toEffective? 39 = none ∧
      (ofCues s.parent s.cues).toEffective? 39 = some 139 := by
  have hload := CueSample.load_tree CueSample.outOfOrder (by decide)
  have hinclude := CueSample.includeSplice?_project CueSample.outOfOrder
  have hlate : OffsetCue.Governs ⟨40, 300⟩ CueSample.outOfOrder 50 := by decide
  have hearly : OffsetCue.Governs ⟨0, 100⟩ CueSample.outOfOrder 39 := by decide
  refine ⟨_, _, hload, hinclude, by decide, hlate, by decide, ?_, hearly, by decide, ?_⟩
  · exact (toEffective?_eq_some_iff (governing?_ofCues_eq_some_iff.mpr hlate)).mpr (by decide)
  · exact (toEffective?_eq_some_iff (governing?_ofCues_eq_some_iff.mpr hearly)).mpr (by decide)

end Project

end SymbolNav
