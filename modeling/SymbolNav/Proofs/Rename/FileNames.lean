import Mathlib.Data.List.DropRight
import SymbolNav.Rename.Plan

/-!
# The name at the end of a path

A path is read as a start and the pieces behind it, and its components, its parent and its file name
are described by these. The parent keeps the pieces up to the last one that counts, so it ends in
such a piece or has none at all, and a name that is put behind it can be taken off again. Hence a
path with another file name has the same parent, and its own extension if the new name was written
with it.
-/

namespace SymbolNav.Path

/-- What a path starts with: the root, a single dot, or a piece of its own. -/
inductive Start where
  | root
  | dot
  | own

/-- The components that a start stands for. -/
def Start.components : Start → List Component
  | .root => [.root]
  | .dot => [.here]
  | .own => []

/-- The text of a path with the given start and pieces. -/
def written : Start → List (List Char) → List Char
  | .root, pieces => '/' :: joinSegments pieces
  | .dot, pieces => joinSegments (['.'] :: pieces)
  | .own, pieces => joinSegments pieces

/-- How a path is read. A path with a start of its own has neither of the other two. -/
inductive Reads (p : Path) : Start → List (List Char) → Prop where
  | root {body : List Char} (h : p.text.toList = '/' :: body) : Reads p .root (segments body)
  | dot {pieces : List (List Char)} (relative : p.text.toList.head? ≠ some '/')
      (h : segments p.text.toList = ['.'] :: pieces) : Reads p .dot pieces
  | own (relative : p.text.toList.head? ≠ some '/')
      (h : (segments p.text.toList).head? ≠ some ['.']) : Reads p .own (segments p.text.toList)

/-- The file name without its extension. -/
def stem? (p : Path) : Option (List Char) :=
  p.fileName?.map fun name =>
    match p.extension? with
    | none => name
    | some extension => name.take (name.length - extension.length - 1)

variable {p : Path} {start : Start} {pieces kept : List (List Char)} {name : List Char}

/-! ### Pieces and their text -/

theorem segments_cons (c : Char) (text : List Char) :
    segments (c :: text) =
      if c = '/' then [] :: segments text else (segments text).modifyHead (c :: ·) := by
  simp only [segments, List.splitOn_cons_eq_if_modifyHead, beq_iff_eq]

theorem joinSegments_singleton (piece : List Char) : joinSegments [piece] = piece :=
  List.intercalate_singleton

theorem joinSegments_cons (hne : pieces ≠ []) (piece : List Char) :
    joinSegments (piece :: pieces) = piece ++ '/' :: joinSegments pieces := by
  rw [joinSegments, List.intercalate_cons_of_ne_nil hne, joinSegments]
  simp

theorem segments_joinSegments (hfree : ∀ piece ∈ pieces, '/' ∉ piece) (hne : pieces ≠ []) :
    segments (joinSegments pieces) = pieces :=
  List.splitOn_intercalate '/' hfree hne

theorem not_mem_of_mem_segments {text piece : List Char} (h : piece ∈ segments text) :
    '/' ∉ piece := by
  induction text generalizing piece with
  | nil =>
      rw [List.mem_singleton.mp h]
      exact List.not_mem_nil
  | cons c text ih =>
      rw [segments_cons] at h
      split at h
      · cases List.mem_cons.mp h with
        | inl hempty =>
            rw [hempty]
            exact List.not_mem_nil
        | inr hrest => exact ih hrest
      · rename_i hc
        cases hpieces : segments text with
        | nil => exact absurd hpieces (List.splitOn_ne_nil _ _)
        | cons first rest =>
            rw [hpieces] at h ih
            cases List.mem_cons.mp h with
            | inl hfirst =>
                rw [hfirst, List.mem_cons, not_or]
                exact ⟨Ne.symm hc, ih List.mem_cons_self⟩
            | inr hrest => exact ih (List.mem_cons_of_mem _ hrest)

/-- Only a slash in front, or no text at all, makes the first piece empty. -/
theorem head?_segments_eq_nil {text : List Char} (h : (segments text).head? = some []) :
    text = [] ∨ text.head? = some '/' := by
  cases text with
  | nil => exact Or.inl rfl
  | cons c text =>
      rw [segments_cons] at h
      split at h
      · rename_i hc
        exact Or.inr (congrArg some hc)
      · cases hpieces : segments text <;> simp [hpieces] at h

theorem joinSegments_concat (hne : kept ≠ []) (name : List Char) :
    joinSegments (kept ++ [name]) = joinSegments kept ++ '/' :: name := by
  induction kept with
  | nil => exact absurd rfl hne
  | cons first rest ih =>
      rw [List.cons_append, joinSegments_cons (List.concat_ne_nil _ _)]
      cases rest with
      | nil => simp only [List.nil_append, joinSegments_singleton]
      | cons second rest =>
          rw [ih (List.cons_ne_nil _ _), joinSegments_cons (List.cons_ne_nil _ _),
            List.append_assoc, List.cons_append]

/-- A text ends as its last piece does. -/
theorem getLast?_joinSegments (hlast : pieces.getLast? = some name) (hname : name ≠ []) :
    (joinSegments pieces).getLast? = name.getLast? := by
  obtain ⟨kept, rfl⟩ := List.getLast?_eq_some_iff.mp hlast
  cases kept with
  | nil => rw [List.nil_append, joinSegments_singleton]
  | cons first rest =>
      rw [joinSegments_concat (List.cons_ne_nil _ _), List.getLast?_append, List.getLast?_cons,
        List.getLast?_eq_some_getLast hname]
      rfl

/-! ### Reading a path -/

theorem exists_reads (p : Path) : ∃ start pieces, p.Reads start pieces := by
  by_cases hroot : p.text.toList.head? = some '/'
  · obtain ⟨body, hbody⟩ := List.head?_eq_some_iff.mp hroot
    exact ⟨.root, segments body, .root hbody⟩
  · by_cases hdot : (segments p.text.toList).head? = some ['.']
    · obtain ⟨pieces, hpieces⟩ := List.head?_eq_some_iff.mp hdot
      exact ⟨.dot, pieces, .dot hroot hpieces⟩
    · exact ⟨.own, segments p.text.toList, .own hroot hdot⟩

/-- What is written is read again, unless the first piece would be taken for a start. -/
theorem reads_written (hfree : ∀ piece ∈ pieces, '/' ∉ piece) (hne : pieces ≠ [])
    (hown : start = .own → pieces.head? ≠ some [] ∧ pieces.head? ≠ some ['.']) :
    (⟨String.ofList (written start pieces)⟩ : Path).Reads start pieces := by
  have hread := segments_joinSegments hfree hne
  cases start with
  | root =>
      rw [← hread]
      refine .root ?_
      rw [hread]
      exact String.toList_ofList
  | dot =>
      have hread' : segments (joinSegments (['.'] :: pieces)) = ['.'] :: pieces := by
        refine segments_joinSegments ?_ (List.cons_ne_nil _ _)
        intro piece hpiece
        cases List.mem_cons.mp hpiece with
        | inl hdot =>
            rw [hdot]
            decide
        | inr hrest => exact hfree piece hrest
      refine .dot ?_ ?_
      · obtain ⟨first, rest, rfl⟩ := List.exists_cons_of_ne_nil hne
        simp [written, joinSegments]
      · rw [String.toList_ofList]
        exact hread'
  | own =>
      obtain ⟨hempty, hdot⟩ := hown rfl
      have htext : (String.ofList (written .own pieces)).toList = joinSegments pieces :=
        String.toList_ofList
      have hreads : (⟨String.ofList (written .own pieces)⟩ : Path).Reads .own
          (segments (joinSegments pieces)) := by
        rw [← htext]
        refine .own ?_ ?_
        · intro hslash
          apply hempty
          rw [htext] at hslash
          obtain ⟨body, hbody⟩ := List.head?_eq_some_iff.mp hslash
          rw [← hread, hbody]
          rfl
        · rw [htext, hread]
          exact hdot
      rwa [hread] at hreads

namespace Reads

theorem components_eq (h : p.Reads start pieces) :
    p.components = start.components ++ (pieces.filter (!isTrivial ·)).map componentOf := by
  cases h with
  | root h =>
      rw [components, h]
      rfl
  | dot relative h =>
      unfold components
      split
      · rename_i htext
        exact absurd (by rw [htext]; rfl) relative
      · rw [h]
        rfl
  | own relative h =>
      unfold components
      split
      · rename_i htext
        exact absurd (by rw [htext]; rfl) relative
      · split
        · rename_i hpieces
          exact absurd (by rw [hpieces]; rfl) h
        · rfl

theorem not_mem (h : p.Reads start pieces) {piece : List Char} (hpiece : piece ∈ pieces) :
    '/' ∉ piece := by
  cases h with
  | root h => exact not_mem_of_mem_segments hpiece
  | dot relative h =>
      apply not_mem_of_mem_segments
      rw [h]
      exact List.mem_cons_of_mem _ hpiece
  | own relative h => exact not_mem_of_mem_segments hpiece

/-- The first piece of a path with a start of its own is neither empty nor a dot, unless the path
has no text. -/
theorem head?_ne (h : p.Reads .own pieces) (hpieces : pieces ≠ [[]]) :
    pieces.head? ≠ some [] ∧ pieces.head? ≠ some ['.'] := by
  cases h with
  | own relative h =>
      refine ⟨?_, h⟩
      intro hempty
      cases head?_segments_eq_nil hempty with
      | inl htext =>
          apply hpieces
          rw [htext]
          rfl
      | inr hslash => exact relative hslash

theorem fileName?_concat (h : p.Reads start (kept ++ [name])) (htrivial : ¬ isTrivial name)
    (hup : name ≠ ['.', '.']) : p.fileName? = some name := by
  have hlast : p.components.getLast? = some (.name name) := by
    rw [h.components_eq, List.filter_append, List.filter_singleton]
    simp [htrivial, componentOf, hup]
  rw [fileName?, hlast]

/-- A path with a file name has a piece that counts. -/
theorem dropTrivialEnd_ne_nil (h : p.Reads start pieces) (hname : p.fileName?.isSome) :
    dropTrivialEnd pieces ≠ [] := by
  intro hnil
  have hall : ∀ piece ∈ pieces, isTrivial piece := List.rdropWhile_eq_nil_iff.mp hnil
  have hnone : pieces.filter (!isTrivial ·) = [] := by
    rw [List.filter_eq_nil_iff]
    intro piece hpiece
    simp [hall piece hpiece]
  have hcomponents := h.components_eq
  rw [hnone, List.map_nil, List.append_nil] at hcomponents
  rw [fileName?, hcomponents] at hname
  cases start <;> cases hname

theorem parent?_eq (h : p.Reads start pieces) (hne : dropTrivialEnd pieces ≠ []) :
    p.parent? = some ⟨String.ofList
      (written start (dropTrivialEnd (dropTrivialEnd pieces).dropLast))⟩ := by
  obtain ⟨first, rest, hcons⟩ := List.exists_cons_of_ne_nil hne
  cases h with
  | root h =>
      rw [parent?, h]
      simp only [hcons]
      rfl
  | dot relative h =>
      unfold parent?
      split
      · rename_i htext
        exact absurd (by rw [htext]; rfl) relative
      · simp only [h, hcons]
        rfl
  | own relative h =>
      unfold parent?
      split
      · rename_i htext
        exact absurd (by rw [htext]; rfl) relative
      · split
        · rename_i hpieces
          exact absurd (by rw [hpieces]; rfl) h
        · simp only [hcons]
          rfl

end Reads

/-! ### Another name at the end -/

theorem isAbsolute_eq_false (hname : '/' ∉ name) :
    (⟨String.ofList name⟩ : Path).isAbsolute = false := by
  rw [isAbsolute, String.toList_ofList, decide_eq_false_iff_not]
  intro hhead
  exact hname (List.mem_of_mem_head? hhead)

theorem join_of_slash {text : List Char} (hname : '/' ∉ name)
    (htext : text.getLast?.all (· = '/')) :
    (⟨String.ofList text⟩ : Path).join ⟨String.ofList name⟩ = ⟨String.ofList (text ++ name)⟩ := by
  rw [join, isAbsolute_eq_false hname, String.toList_ofList, htext, String.ofList_append]
  rfl

theorem join_of_not_slash {text : List Char} (hname : '/' ∉ name)
    (htext : text.getLast?.all (· = '/') = false) :
    (⟨String.ofList text⟩ : Path).join ⟨String.ofList name⟩ =
      ⟨String.ofList (text ++ '/' :: name)⟩ := by
  rw [join, isAbsolute_eq_false hname, String.toList_ofList, htext, ← List.singleton_append,
    String.ofList_append, String.ofList_append, ← String.append_assoc]
  rfl

/-- A text whose last piece counts does not end with a slash. -/
theorem all_getLast?_joinSegments {last : List Char} (hlast : pieces.getLast? = some last)
    (hcounts : ¬ isTrivial last) (hfree : '/' ∉ last) :
    (joinSegments pieces).getLast?.all (· = '/') = false := by
  have hne : last ≠ [] := by
    intro hnil
    exact hcounts (by rw [hnil]; rfl)
  rw [getLast?_joinSegments hlast hne, List.getLast?_eq_some_getLast hne, Option.all_some,
    decide_eq_false_iff_not]
  intro hslash
  exact hfree (hslash ▸ List.getLast_mem hne)

theorem join_written (hkept : ∀ last, kept.getLast? = some last → ¬ isTrivial last)
    (hfree : ∀ piece ∈ kept, '/' ∉ piece) (hname : '/' ∉ name) :
    (⟨String.ofList (written start kept)⟩ : Path).join ⟨String.ofList name⟩ =
      ⟨String.ofList (written start (kept ++ [name]))⟩ := by
  cases hlast : kept.getLast? with
  | none =>
      rw [List.getLast?_eq_none_iff.mp hlast, List.nil_append]
      cases start with
      | root =>
          rw [written, written, joinSegments_singleton]
          exact join_of_slash hname rfl
      | dot =>
          rw [written, written, joinSegments_cons (List.cons_ne_nil _ _), joinSegments_singleton,
            joinSegments_singleton]
          exact join_of_not_slash hname (by decide)
      | own =>
          rw [written, written, joinSegments_singleton]
          exact join_of_slash hname rfl
  | some last =>
      have hne : kept ≠ [] := by
        intro hnil
        rw [hnil] at hlast
        cases hlast
      have hend := all_getLast?_joinSegments hlast (hkept last hlast)
        (hfree last (List.mem_of_getLast? hlast))
      cases start with
      | root =>
          have hend' : (written .root kept).getLast?.all (· = '/') = false := by
            rw [written, List.getLast?_cons]
            cases hjoined : (joinSegments kept).getLast? with
            | none =>
                rw [hjoined] at hend
                cases hend
            | some c =>
                rw [hjoined] at hend
                exact hend
          rw [join_of_not_slash hname hend', written, written, joinSegments_concat hne,
            List.cons_append]
      | dot =>
          have hlast' : (['.'] :: kept).getLast? = some last := by
            rw [List.getLast?_cons, hlast]
            rfl
          have hend' := all_getLast?_joinSegments hlast' (hkept last hlast)
            (hfree last (List.mem_of_getLast? hlast))
          have hconcat := joinSegments_concat (List.cons_ne_nil ['.'] kept) name
          rw [written, join_of_not_slash hname hend', ← hconcat]
          rfl
      | own => rw [written, join_of_not_slash hname hend, written, joinSegments_concat hne]

/-- The new name does not make the first piece a start. -/
theorem head?_concat_ne (h : p.Reads .own pieces) (hpieces : dropTrivialEnd pieces ≠ [])
    (hkept : kept <+: pieces) (hcounts : ¬ isTrivial name) :
    (kept ++ [name]).head? ≠ some [] ∧ (kept ++ [name]).head? ≠ some ['.'] := by
  cases kept with
  | nil =>
      have hname : name ≠ [] ∧ name ≠ ['.'] := by simpa [isTrivial] using hcounts
      simpa using hname
  | cons first rest =>
      obtain ⟨more, rfl⟩ := hkept
      apply h.head?_ne
      intro hempty
      rw [hempty] at hpieces
      exact hpieces rfl

/-- A path with another file name has that name at its end and the parent it had. -/
theorem parent?_withFileName (hfile : p.fileName?.isSome) (hslash : '/' ∉ name)
    (hcounts : ¬ isTrivial name) (hup : name ≠ ['.', '.']) :
    (p.withFileName (String.ofList name)).parent? = p.parent? ∧
      (p.withFileName (String.ofList name)).fileName? = some name := by
  obtain ⟨start, pieces, hreads⟩ := p.exists_reads
  have hne := hreads.dropTrivialEnd_ne_nil hfile
  have hparent := hreads.parent?_eq hne
  generalize hkept : dropTrivialEnd (dropTrivialEnd pieces).dropLast = kept at hparent
  have hbefore : kept <+: pieces := by
    rw [← hkept]
    exact (List.rdropWhile_prefix _ _).trans
      ((List.dropLast_prefix _).trans (List.rdropWhile_prefix _ _))
  have hstays : dropTrivialEnd kept = kept := by
    rw [← hkept]
    exact List.rdropWhile_idempotent _ _
  have hlast : ∀ last, kept.getLast? = some last → ¬ isTrivial last := by
    intro last hlast htrivial
    obtain ⟨front, rfl⟩ := List.getLast?_eq_some_iff.mp hlast
    have hlength := congrArg List.length hstays
    have hle := (List.rdropWhile_prefix isTrivial front).length_le
    rw [dropTrivialEnd, ← List.rdropWhile, List.rdropWhile_concat_pos _ _ _ htrivial,
      List.length_append, List.length_singleton] at hlength
    omega
  have hfree : ∀ piece ∈ kept ++ [name], '/' ∉ piece := by
    intro piece hpiece
    cases List.mem_append.mp hpiece with
    | inl hold => exact hreads.not_mem (hbefore.subset hold)
    | inr hnew => rwa [List.mem_singleton.mp hnew]
  have hwith : p.withFileName (String.ofList name) =
      ⟨String.ofList (written start (kept ++ [name]))⟩ := by
    rw [withFileName, if_pos hfile, hparent]
    exact join_written hlast (fun piece hpiece => hfree piece (List.mem_append_left _ hpiece)) hslash
  have hreads' : (p.withFileName (String.ofList name)).Reads start (kept ++ [name]) := by
    rw [hwith]
    refine reads_written hfree (List.append_ne_nil_of_right_ne_nil _ (List.cons_ne_nil _ _)) ?_
    intro hown
    subst hown
    exact head?_concat_ne hreads hne hbefore hcounts
  have hends : dropTrivialEnd (kept ++ [name]) = kept ++ [name] :=
    List.rdropWhile_concat_neg _ _ _ hcounts
  refine ⟨?_, hreads'.fileName?_concat hcounts hup⟩
  rw [hreads'.parent?_eq (by rw [hends]; simp), hends, List.dropLast_concat, hstays, hparent]

/-! ### The extension of the new name -/

theorem extension?_of_not_mem (hname : p.fileName? = some name) (hdot : '.' ∉ name) :
    p.extension? = none := by
  have hdrop : name.reverse.dropWhile (· ≠ '.') = [] := by
    rw [List.dropWhile_eq_nil_iff]
    intro c hc
    rw [decide_eq_true_eq]
    rintro rfl
    exact hdot (List.mem_reverse.mp hc)
  rw [extension?, hname, Option.bind_some]
  simp only [hdrop]

theorem extension?_append {stem extension : List Char}
    (hname : p.fileName? = some (stem ++ '.' :: extension)) (hstem : stem ≠ [])
    (hdot : '.' ∉ extension) : p.extension? = some extension := by
  have hfree : ∀ c ∈ extension.reverse, decide (c ≠ '.') = true := by
    intro c hc
    rw [decide_eq_true_eq]
    rintro rfl
    exact hdot (List.mem_reverse.mp hc)
  have hreverse : (stem ++ '.' :: extension).reverse =
      extension.reverse ++ '.' :: stem.reverse := by simp
  have hdrop : (stem ++ '.' :: extension).reverse.dropWhile (· ≠ '.') = '.' :: stem.reverse := by
    rw [hreverse, List.dropWhile_append_of_pos hfree]
    rfl
  have htake : (stem ++ '.' :: extension).reverse.takeWhile (· ≠ '.') = extension.reverse := by
    rw [hreverse, List.takeWhile_append_of_pos hfree]
    simp
  obtain ⟨c, rest, hcons⟩ := List.exists_cons_of_ne_nil (List.reverse_ne_nil_iff.mpr hstem)
  rw [extension?, hname, Option.bind_some]
  simp only [hdrop, htake, hcons, List.reverse_reverse]

/-- An extension is what stands behind the last dot of the file name. -/
theorem eq_of_extension? {extension : List Char} (h : p.extension? = some extension) :
    ∃ name, p.fileName? = some name ∧ extension = (name.reverse.takeWhile (· ≠ '.')).reverse := by
  obtain ⟨name, hname, hextension⟩ := Option.bind_eq_some_iff.mp h
  refine ⟨name, hname, ?_⟩
  dsimp only at hextension
  split at hextension
  · cases hextension
  · cases hextension
  · exact (Option.some.inj hextension).symm

theorem not_mem_of_fileName? (h : p.fileName? = some name) : '/' ∉ name := by
  obtain ⟨start, pieces, hreads⟩ := p.exists_reads
  have hlast : p.components.getLast? = some (.name name) := by
    rw [fileName?] at h
    split at h
    · rename_i hlast
      rw [hlast, Option.some.inj h]
    · cases h
  have hmem := List.mem_of_getLast? hlast
  rw [hreads.components_eq] at hmem
  cases List.mem_append.mp hmem with
  | inl hstart => cases start <;> simp [Start.components] at hstart
  | inr hpiece =>
      obtain ⟨piece, hpiece, hname⟩ := List.mem_map.mp hpiece
      rw [componentOf] at hname
      split at hname
      · cases hname
      · cases hname
        exact hreads.not_mem (List.mem_of_mem_filter hpiece)

/-- Neither a dot nor a slash stands in an extension. -/
theorem not_mem_of_extension? {extension : List Char} (h : p.extension? = some extension) :
    '.' ∉ extension ∧ '/' ∉ extension := by
  obtain ⟨name, hname, rfl⟩ := eq_of_extension? h
  simp only [List.mem_reverse]
  constructor
  · intro hmem
    have hne := List.mem_takeWhile_imp hmem
    simp at hne
  · intro hmem
    apply not_mem_of_fileName? hname
    exact List.mem_reverse.mp (List.takeWhile_subset _ hmem)

/-- A name that starts with another character than a dot is a component of its own. -/
theorem counts_of_head? {c : Char} {rest : List Char} (hname : name = c :: rest) (hdot : c ≠ '.') :
    ¬ isTrivial name ∧ name ≠ ['.', '.'] := by
  subst hname
  simp [isTrivial, hdot]

/-- A renamed path differs from the old one in the stem of its file name only. -/
theorem renamed_keeps {newName : String} (hfile : p.fileName?.isSome) (hne : newName.toList ≠ [])
    (hslash : '/' ∉ newName.toList) (hdot : '.' ∉ newName.toList) :
    (p.renamed newName).parent? = p.parent? ∧ (p.renamed newName).extension? = p.extension? ∧
      (p.renamed newName).stem? = some newName.toList := by
  obtain ⟨c, rest, hname⟩ := List.exists_cons_of_ne_nil hne
  have hc : c ≠ '.' := by
    rintro rfl
    exact hdot (hname ▸ List.mem_cons_self)
  cases hextension : p.extension? with
  | none =>
      have hrenamed : p.renamed newName = p.withFileName (String.ofList newName.toList) := by
        rw [renamed, hextension, String.ofList_toList]
      obtain ⟨hcounts, hup⟩ := counts_of_head? hname hc
      obtain ⟨hparent, hfile'⟩ := parent?_withFileName hfile hslash hcounts hup
      rw [← hrenamed] at hparent hfile'
      have hnone := extension?_of_not_mem hfile' hdot
      refine ⟨hparent, hnone, ?_⟩
      rw [stem?, hfile', hnone]
      rfl
  | some extension =>
      have hrenamed : p.renamed newName =
          p.withFileName (String.ofList (newName.toList ++ '.' :: extension)) := by
        rw [renamed, hextension, ← List.singleton_append, ← List.append_assoc, String.ofList_append,
          String.ofList_append, String.ofList_toList]
      obtain ⟨hdot', hfree⟩ := not_mem_of_extension? hextension
      have hslash' : '/' ∉ newName.toList ++ '.' :: extension := by simp [hslash, hfree]
      obtain ⟨hcounts, hup⟩ :=
        counts_of_head? (congrArg (· ++ '.' :: extension) hname) hc
      obtain ⟨hparent, hfile'⟩ := parent?_withFileName hfile hslash' hcounts hup
      rw [← hrenamed] at hparent hfile'
      have hsome := extension?_append hfile' hne hdot'
      refine ⟨hparent, hsome, ?_⟩
      have hlength : (newName.toList ++ '.' :: extension).length - extension.length - 1 =
          newName.toList.length := by
        rw [List.length_append, List.length_cons]
        omega
      rw [stem?, hfile', hsome, Option.map_some]
      simp only [hlength, List.take_left']

end SymbolNav.Path
