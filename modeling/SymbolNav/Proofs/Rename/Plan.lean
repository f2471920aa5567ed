import Mathlib.Data.List.Forall2
import SymbolNav.Proofs.Rename.Disjoint
import SymbolNav.Proofs.Rename.Occurrences
import SymbolNav.Proofs.Text.Positions
import SymbolNav.Rename.Plan

/-!
# What a plan edits

A plan is built unit by unit. `scanUnit_eq_ok` says all that one unit can add to it, and the batches
of a whole run are those of its units in order. As long as the occurrences of a unit can be
addressed in its text, its batch puts the new name in place of occurrences only, in order and
without overlap, and every occurrence is replaced or overlaps one that is.
-/

namespace SymbolNav

/-- The span is not empty and both its ends fall between characters of the text of the unit. -/
def Project.Fits (p : Project) (u : UnitId) (s : Span) : Prop :=
  s.start < s.stop ∧ ∃ text, p.text? u = some text ∧
    Text.IsBoundary text.toList s.start ∧ Text.IsBoundary text.toList s.stop

namespace Context

/-- What a unit adds to the documents of a plan. -/
def batch? (ctx : Context) (id : DefId) (target : Definition) (newName : String) (u : UnitId) :
    Option DocumentEdit := do
  let path ← (ctx.project.unitPath? u).filter fun _ => ctx.project.isSource u
  let spans ← (ctx.occurrences u (id :: target.constructor?.toList) target).toOption
  if (ctx.unitEdits u spans newName).isEmpty then none
  else some ⟨path, ctx.unitEdits u spans newName⟩

/-- A batch replaces the spans `kept` of a unit by the new name. They are occurrences that follow
one another without overlap, each the shortest with its start; every occurrence starts inside one of
them, and where occurrences do not overlap each other, all of them are kept. -/
structure RenamesIn (ctx : Context) (id : DefId) (target : Definition) (newName : String)
    (u : UnitId) (doc : DocumentEdit) (kept : List Span) : Prop where
  path_eq : ctx.project.unitPath? u = some doc.path
  edits_eq : List.Forall₂ (fun s (edit : TextEdit) =>
    ctx.project.editorRange? u s = some edit.range ∧ edit.newText = newName) kept doc.edits
  kept_eq : ∃ spans, (∀ s, s ∈ spans ↔ ctx.Occurs id target u s) ∧ kept = Rename.disjoint spans
  ordered : kept.Pairwise fun a b => a.stop ≤ b.start
  sound : ∀ s ∈ kept, ctx.Occurs id target u s
  complete : ∀ s, ctx.Occurs id target u s → ∃ k ∈ kept, k.contains s.start
  shortest : ∀ k ∈ kept, ∀ s, ctx.Occurs id target u s → s.start = k.start → k.stop ≤ s.stop
  exact : (∀ a b, ctx.Occurs id target u a → ctx.Occurs id target u b →
    a = b ∨ a.stop ≤ b.start ∨ b.stop ≤ a.start) → ∀ s, ctx.Occurs id target u s → s ∈ kept

end Context

variable {ctx : Context} {p : Project} {id : DefId} {target : Definition} {u : UnitId}
variable {newName : String} {plan plan' : RenamePlan} {spans : List Span} {s : Span}

namespace Project

theorem exists_unitPath?_of_isSource (h : p.isSource u) : ∃ path, p.unitPath? u = some path := by
  unfold isSource unitKind? at h
  cases hunit : p.unit? u with
  | none => simp [hunit] at h
  | some unit => exact ⟨unit.path, by simp [unitPath?, hunit]⟩

theorem filter_unitPath?_eq_some {path : Path} :
    ((p.unitPath? u).filter fun _ => p.isSource u) = some path ↔
      p.isSource u ∧ p.unitPath? u = some path := by
  rw [Option.filter_eq_some_iff, and_comm]

theorem Fits.exists_editorRange? (h : p.Fits u s) : ∃ range, p.editorRange? u s = some range := by
  obtain ⟨-, text, htext, hstart, hstop⟩ := h
  obtain ⟨front, back, hcut⟩ := Text.isBoundary_iff.mp hstart
  obtain ⟨front', back', hcut'⟩ := Text.isBoundary_iff.mp hstop
  refine ⟨⟨(Position.after ⟨0, 0⟩ front).wrapped, (Position.after ⟨0, 0⟩ front').wrapped⟩, ?_⟩
  rw [editorRange?, htext, Option.bind_some, Text.range?, hcut.position?_eq, hcut'.position?_eq]
  rfl

end Project

namespace Context

/-- All that one unit can do to a plan. -/
theorem scanUnit_eq_ok : ctx.scanUnit id target newName plan u = .ok plan' ↔
    ctx.cancelled = false ∧ ((ctx.project.isSource u = false ∧ plan' = plan) ∨
      ∃ path spans, ctx.project.isSource u ∧ ctx.project.unitPath? u = some path ∧
        ctx.occurrences u (id :: target.constructor?.toList) target = .ok spans ∧
        plan' = ⟨if (ctx.unitEdits u spans newName).isEmpty then plan.documents
            else plan.documents ++ [⟨path, ctx.unitEdits u spans newName⟩],
          if ctx.options.fileRename && plan.fileRename.isNone && ctx.project.isPrincipal u id then
            some ⟨path, path.renamed newName⟩
          else plan.fileRename⟩) := by
  unfold scanUnit checkpoint
  cases ctx.cancelled with
  | true => simp [Answer.bind_eq_ok]
  | false =>
      cases hsource : ctx.project.isSource u with
      | false => simpa [Answer.bind_eq_ok] using eq_comm
      | true =>
          obtain ⟨path, hpath⟩ := Project.exists_unitPath?_of_isSource hsource
          simp only [hpath, Option.filter_some, if_true, Bool.false_eq_true, if_false,
            Answer.bind_eq_ok, Except.ok.injEq, true_and, exists_const, reduceCtorEq, false_and,
            false_or, Option.some.injEq, exists_and_left, exists_eq_left']
          exact exists_congr fun _ => and_congr_right fun _ => eq_comm

theorem batch?_of_occurrences {path : Path} (hsource : ctx.project.isSource u)
    (hpath : ctx.project.unitPath? u = some path)
    (hspans : ctx.occurrences u (id :: target.constructor?.toList) target = .ok spans) :
    ctx.batch? id target newName u = if (ctx.unitEdits u spans newName).isEmpty then none
      else some ⟨path, ctx.unitEdits u spans newName⟩ := by
  rw [batch?, Project.filter_unitPath?_eq_some.mpr ⟨hsource, hpath⟩, hspans]
  rfl

/-- One unit adds its batch at the end. -/
theorem documents_of_scanUnit (h : ctx.scanUnit id target newName plan u = .ok plan') :
    plan'.documents = plan.documents ++ (ctx.batch? id target newName u).toList := by
  obtain ⟨-, ⟨hsource, rfl⟩ | ⟨path, spans, hsource, hpath, hspans, rfl⟩⟩ := scanUnit_eq_ok.mp h
  · simp [batch?, hsource]
  · rw [batch?_of_occurrences hsource hpath hspans]
    split <;> simp_all

/-- The documents of a run are the batches of its units, in order. -/
theorem documents_of_foldlM {units : List UnitId}
    (h : units.foldlM (ctx.scanUnit id target newName) plan = .ok plan') :
    plan'.documents = plan.documents ++ units.filterMap (ctx.batch? id target newName) := by
  induction units generalizing plan with
  | nil =>
      cases h
      simp
  | cons u units ih =>
      rw [List.foldlM_cons] at h
      obtain ⟨next, hnext, hrest⟩ := Answer.bind_eq_ok.mp h
      rw [ih hrest, documents_of_scanUnit hnext, List.append_assoc]
      cases hbatch : ctx.batch? id target newName u <;> simp [hbatch]

/-- A run that is answered has not been cancelled at any of its units, and has searched those that
have a source. -/
theorem searched_of_foldlM {units : List UnitId}
    (h : units.foldlM (ctx.scanUnit id target newName) plan = .ok plan') (hu : u ∈ units) :
    ctx.cancelled = false ∧ (ctx.project.isSource u →
      ∃ spans, ctx.occurrences u (id :: target.constructor?.toList) target = .ok spans) := by
  induction units generalizing plan with
  | nil => exact absurd hu List.not_mem_nil
  | cons first units ih =>
      rw [List.foldlM_cons] at h
      obtain ⟨next, hnext, hrest⟩ := Answer.bind_eq_ok.mp h
      rcases List.mem_cons.mp hu with rfl | hu
      · obtain ⟨hrunning, ⟨hsource, -⟩ | ⟨path, spans, -, -, hspans, -⟩⟩ :=
          scanUnit_eq_ok.mp hnext
        · exact ⟨hrunning, fun h => absurd h (by simp [hsource])⟩
        · exact ⟨hrunning, fun _ => ⟨spans, hspans⟩⟩
      · exact ih hrest hu

/-- What stands behind a plan: a definition that may be renamed, and a run over its units. -/
theorem renameDefinition_eq_edit {d : DefId} :
    ctx.renameDefinition d newName = .ok (.edit plan) ↔
      ∃ target, ctx.project.definition?
          (ctx.project.renameTarget (ctx.project.baseDeclaration d)) = some target ∧
        ctx.refusal? target = none ∧
        (ctx.project.scannedUnits target).foldlM (ctx.scanUnit
          (ctx.project.renameTarget (ctx.project.baseDeclaration d)) target newName) {} =
            .ok plan := by
  unfold renameDefinition
  cases htarget : ctx.project.definition?
      (ctx.project.renameTarget (ctx.project.baseDeclaration d)) with
  | none => simp [htarget]
  | some target =>
      cases hrefusal : ctx.refusal? target with
      | some reason => simp [htarget, hrefusal]
      | none =>
          simp only [htarget, hrefusal, Answer.bind_eq_ok, Option.some.injEq, exists_eq_left',
            Except.ok.injEq, RenameOutcome.edit.injEq, exists_eq_right, true_and]

/-- Where every span can be addressed, there is an edit for each one that is kept. -/
theorem forall₂_unitEdits (fits : ∀ s ∈ spans, ctx.project.Fits u s) :
    List.Forall₂ (fun s (edit : TextEdit) =>
      ctx.project.editorRange? u s = some edit.range ∧ edit.newText = newName)
      (Rename.disjoint spans) (ctx.unitEdits u spans newName) := by
  have hkept : ∀ s ∈ Rename.disjoint spans, ctx.project.Fits u s :=
    fun s hs => fits s (Rename.mem_of_mem_disjoint hs)
  unfold unitEdits
  generalize Rename.disjoint spans = kept at hkept
  induction kept with
  | nil => exact .nil
  | cons k kept ih =>
      obtain ⟨range, hrange⟩ := (hkept k List.mem_cons_self).exists_editorRange?
      have hrest := ih fun s hs => hkept s (List.mem_cons_of_mem _ hs)
      rw [List.filterMap_cons, hrange]
      exact .cons ⟨hrange, rfl⟩ hrest

theorem renamesIn_unitEdits {path : Path} (hpath : ctx.project.unitPath? u = some path)
    (hspans : ctx.occurrences u (id :: target.constructor?.toList) target = .ok spans)
    (fits : ∀ s, ctx.Occurs id target u s → ctx.project.Fits u s) :
    ctx.RenamesIn id target newName u ⟨path, ctx.unitEdits u spans newName⟩
      (Rename.disjoint spans) := by
  have found : ∀ s, s ∈ spans ↔ ctx.Occurs id target u s := fun s => mem_occurrences_iff hspans
  have nonempty : ∀ s ∈ spans, s.start < s.stop := fun s hs => (fits s ((found s).mp hs)).1
  have sound : ∀ s ∈ Rename.disjoint spans, ctx.Occurs id target u s :=
    fun s hs => (found s).mp (Rename.mem_of_mem_disjoint hs)
  have complete : ∀ s, ctx.Occurs id target u s → ∃ k ∈ Rename.disjoint spans, k.contains s.start :=
    fun s hs => Rename.exists_disjoint_contains_start ((found s).mpr hs) (fits s hs).1
  refine ⟨hpath, forall₂_unitEdits fun s hs => fits s ((found s).mp hs), ⟨spans, found, rfl⟩,
    Rename.pairwise_disjoint fun s hs => Nat.le_of_lt (nonempty s hs), sound, complete, ?_, ?_⟩
  · intro k hk s hs
    exact Rename.stop_le_of_mem_disjoint nonempty hk ((found s).mpr hs)
  · intro apart s hs
    obtain ⟨k, hk, hstart⟩ := complete s hs
    have hlength := (fits s hs).1
    rw [Span.contains_iff] at hstart
    -- The kept span holds the first byte of `s`, so the two are not apart.
    rcases apart s k hs (sound k hk) with rfl | hfar | hfar
    · exact hk
    · omega
    · omega

theorem renamesIn_of_batch? {doc : DocumentEdit} (h : ctx.batch? id target newName u = some doc)
    (fits : ∀ s, ctx.Occurs id target u s → ctx.project.Fits u s) :
    ∃ kept, ctx.RenamesIn id target newName u doc kept := by
  obtain ⟨path, hfound, h⟩ := Option.bind_eq_some_iff.mp h
  obtain ⟨hsource, hpath⟩ := Project.filter_unitPath?_eq_some.mp hfound
  obtain ⟨spans, hspans, h⟩ := Option.bind_eq_some_iff.mp h
  split at h
  · cases h
  · cases h
    have hspans := Answer.toOption_eq_some.mp hspans
    exact ⟨Rename.disjoint spans, renamesIn_unitEdits hpath hspans fits⟩

/-- A unit that has been searched has a batch exactly if the target occurs in it. -/
theorem isSome_batch?_iff (hsource : ctx.project.isSource u)
    (hspans : ctx.occurrences u (id :: target.constructor?.toList) target = .ok spans)
    (fits : ∀ s, ctx.Occurs id target u s → ctx.project.Fits u s) :
    (ctx.batch? id target newName u).isSome ↔ ∃ s, ctx.Occurs id target u s := by
  obtain ⟨path, hpath⟩ := Project.exists_unitPath?_of_isSource hsource
  have hbatch : (ctx.batch? id target newName u).isSome ↔ ctx.unitEdits u spans newName ≠ [] := by
    rw [batch?_of_occurrences hsource hpath hspans]
    split <;> simp_all
  have hrenames : ctx.RenamesIn id target newName u ⟨path, ctx.unitEdits u spans newName⟩
      (Rename.disjoint spans) := renamesIn_unitEdits hpath hspans fits
  have hlength : (Rename.disjoint spans).length = (ctx.unitEdits u spans newName).length :=
    hrenames.edits_eq.length_eq
  rw [hbatch, ← List.length_pos_iff, ← hlength, List.length_pos_iff_exists_mem]
  constructor
  · rintro ⟨k, hk⟩
    exact ⟨k, hrenames.sound k hk⟩
  · rintro ⟨s, hs⟩
    obtain ⟨k, hk, -⟩ := hrenames.complete s hs
    exact ⟨k, hk⟩

theorem forall₂_batch? (units : List UnitId) :
    List.Forall₂ (fun u doc => ctx.batch? id target newName u = some doc)
      (units.filter fun u => (ctx.batch? id target newName u).isSome)
      (units.filterMap (ctx.batch? id target newName)) := by
  induction units with
  | nil => exact .nil
  | cons u units ih =>
      cases h : ctx.batch? id target newName u with
      | none => simpa [h] using ih
      | some doc => simpa [h] using ih

/-- The units of a run that have a batch are those in which the target occurs. -/
theorem mem_filter_batch?_iff {units : List UnitId}
    (h : units.foldlM (ctx.scanUnit id target newName) plan = .ok plan')
    (fits : ∀ u ∈ units, ctx.project.isSource u →
      ∀ s, ctx.Occurs id target u s → ctx.project.Fits u s) :
    u ∈ units.filter (fun u => (ctx.batch? id target newName u).isSome) ↔
      u ∈ units ∧ ctx.project.isSource u ∧ ∃ s, ctx.Occurs id target u s := by
  rw [List.mem_filter]
  refine and_congr_right fun hu => ?_
  by_cases hsource : ctx.project.isSource u
  · obtain ⟨spans, hspans⟩ := (searched_of_foldlM h hu).2 hsource
    rw [isSome_batch?_iff hsource hspans (fits u hu hsource)]
    simp [hsource]
  · simp [batch?, hsource]

/-- A run that is answered has a batch for every unit in which it finds an occurrence. -/
theorem exists_renamesIn_of_foldlM {units : List UnitId}
    (h : units.foldlM (ctx.scanUnit id target newName) plan = .ok plan') (hu : u ∈ units)
    (hsource : ctx.project.isSource u)
    (fits : ∀ s, ctx.Occurs id target u s → ctx.project.Fits u s)
    (hs : ctx.Occurs id target u s) :
    ∃ doc ∈ plan'.documents, ∃ kept, ctx.RenamesIn id target newName u doc kept := by
  obtain ⟨spans, hspans⟩ := (searched_of_foldlM h hu).2 hsource
  obtain ⟨doc, hdoc⟩ :=
    Option.isSome_iff_exists.mp ((isSome_batch?_iff hsource hspans fits).mpr ⟨s, hs⟩)
  refine ⟨doc, ?_, renamesIn_of_batch? hdoc fits⟩
  rw [documents_of_foldlM h]
  exact List.mem_append_right _ (List.mem_filterMap.mpr ⟨u, hu, hdoc⟩)

/-- The edit of an occurrence: it replaces a span that the occurrence starts in. -/
theorem RenamesIn.exists_edit {doc : DocumentEdit} {kept : List Span}
    (h : ctx.RenamesIn id target newName u doc kept) (hs : ctx.Occurs id target u s) :
    ∃ edit ∈ doc.edits, edit.newText = newName ∧
      ∃ k, ctx.project.editorRange? u k = some edit.range ∧ k.contains s.start := by
  obtain ⟨k, hk, hstart⟩ := h.complete s hs
  obtain ⟨⟨index, hindex⟩, rfl⟩ := List.mem_iff_get.mp hk
  have hindex' : index < doc.edits.length := h.edits_eq.length_eq ▸ hindex
  obtain ⟨hrange, hname⟩ := h.edits_eq.get hindex hindex'
  exact ⟨doc.edits.get ⟨index, hindex'⟩, List.get_mem _ _, hname, _, hrange, hstart⟩

end Context

/-! ### A small project

A class and its constructor, both named in a script, and a tag of a markup document that is bound to
the class. The statements below are applied to it. -/

namespace Sample

def dot : Definition :=
  ⟨"Dot", "Dot", .classType (some ⟨1⟩) [⟨1⟩], .pub, ⟨"/p/Dot.as"⟩, none, some ⟨6, 9⟩⟩

def dotConstructor : Definition :=
  ⟨"Dot", "Dot.Dot", .function .classMember false, .pub, ⟨"/p/Dot.as"⟩, some ⟨0⟩, some ⟨21, 24⟩⟩

def script : UnitSnapshot :=
  ⟨⟨"/p/Dot.as"⟩, .script, some "class Dot { function Dot() {} }", some ⟨0⟩, .ready [⟨0⟩], none, [],
    none⟩

def tag : MarkupTag :=
  ⟨⟨some "s", "Dot"⟩, .component, ⟨0, 15⟩, ⟨0, 7⟩, ⟨1, 6⟩, some ⟨9, 14⟩, [], [], none, []⟩

def markup : UnitSnapshot :=
  ⟨⟨"/p/Main.mxml"⟩, .markup, some "<s:Dot></s:Dot>", none, .ready [], none, [],
    some ⟨⟨"/p/Main.mxml"⟩, [tag], some ⟨0⟩⟩⟩

def snapshot : Snapshot where
  units := [script, markup]
  nodes := [⟨.other, ⟨0, 31⟩, none, [⟨1⟩, ⟨2⟩]⟩, ⟨.identifier "Dot", ⟨6, 9⟩, some ⟨0⟩, []⟩,
    ⟨.identifier "Dot", ⟨21, 24⟩, some ⟨0⟩, []⟩]
  definitions := [dot, dotConstructor]
  bindings := [⟨⟨1⟩, ⟨0⟩⟩, ⟨⟨2⟩, ⟨1⟩⟩]
  tagBindings := [⟨⟨1⟩, ⟨0⟩, none, ⟨0⟩⟩]

def context : Context where
  project := .ofSnapshot {} snapshot

def scriptEdits : DocumentEdit :=
  ⟨⟨"/p/Dot.as"⟩, [⟨⟨⟨0, 6⟩, ⟨0, 9⟩⟩, "Spot"⟩, ⟨⟨⟨0, 21⟩, ⟨0, 24⟩⟩, "Spot"⟩]⟩

def markupEdits : DocumentEdit :=
  ⟨⟨"/p/Main.mxml"⟩, [⟨⟨⟨0, 3⟩, ⟨0, 6⟩⟩, "Spot"⟩, ⟨⟨⟨0, 11⟩, ⟨0, 14⟩⟩, "Spot"⟩]⟩

/-- The new name `Spot` in all four places. -/
def spotPlan : RenamePlan where
  documents := [scriptEdits, markupEdits]

theorem unitEdits_script :
    context.unitEdits ⟨0⟩ [⟨6, 9⟩, ⟨21, 24⟩] "Spot" = scriptEdits.edits := by
  rw [Context.unitEdits, Rename.disjoint_eq_self (by decide) (by decide)]
  rfl

theorem unitEdits_markup :
    context.unitEdits ⟨1⟩ [⟨3, 6⟩, ⟨11, 14⟩] "Spot" = markupEdits.edits := by
  rw [Context.unitEdits, Rename.disjoint_eq_self (by decide) (by decide)]
  rfl

theorem renameDefinition_constructor :
    context.renameDefinition ⟨1⟩ "Spot" = .ok (.edit spotPlan) := by
  have hscript : context.scanUnit ⟨0⟩ dot "Spot" {} ⟨0⟩ = .ok ⟨[scriptEdits], none⟩ := by
    refine Context.scanUnit_eq_ok.mpr
      ⟨rfl, Or.inr ⟨⟨"/p/Dot.as"⟩, [⟨6, 9⟩, ⟨21, 24⟩], rfl, rfl, rfl, ?_⟩⟩
    rw [unitEdits_script]
    rfl
  have hmarkup : context.scanUnit ⟨0⟩ dot "Spot" ⟨[scriptEdits], none⟩ ⟨1⟩ = .ok spotPlan := by
    refine Context.scanUnit_eq_ok.mpr
      ⟨rfl, Or.inr ⟨⟨"/p/Main.mxml"⟩, [⟨3, 6⟩, ⟨11, 14⟩], rfl, rfl, rfl, ?_⟩⟩
    rw [unitEdits_markup]
    rfl
  refine Context.renameDefinition_eq_edit.mpr ⟨dot, rfl, rfl, ?_⟩
  exact Answer.bind_eq_ok.mpr ⟨_, hscript, Answer.bind_eq_ok.mpr ⟨_, hmarkup, rfl⟩⟩

theorem fits {u : UnitId} (hu : u ∈ context.project.scannedUnits dot) {s : Span}
    (hs : context.Occurs ⟨0⟩ dot u s) : context.project.Fits u s := by
  have hunit : u ∈ [⟨0⟩, ⟨1⟩] := hu
  simp only [List.mem_cons, List.not_mem_nil, or_false] at hunit
  rcases hunit with rfl | rfl
  · have hfound : s ∈ [⟨6, 9⟩, ⟨21, 24⟩] := (Context.mem_occurrences_iff rfl).mpr hs
    simp only [List.mem_cons, List.not_mem_nil, or_false] at hfound
    rcases hfound with rfl | rfl <;> exact ⟨by decide, _, rfl, by decide, by decide⟩
  · have hfound : s ∈ [⟨3, 6⟩, ⟨11, 14⟩] := (Context.mem_occurrences_iff rfl).mpr hs
    simp only [List.mem_cons, List.not_mem_nil, or_false] at hfound
    rcases hfound with rfl | rfl <;> exact ⟨by decide, _, rfl, by decide, by decide⟩

end Sample

namespace Context

/-- Renaming is sound and complete. The plan has one batch for each scanned unit with a source in
which the target occurs, in the order of the units, and no other; each batch replaces occurrences of
its unit only, without overlap, and leaves none out. -/
theorem renameDefinition_replaces_occurrences {d : DefId}
    (h : ctx.renameDefinition d newName = .ok (.edit plan))
    (hid : ctx.project.renameTarget (ctx.project.baseDeclaration d) = id)
    (htarget : ctx.project.definition? id = some target)
    (fits : ∀ u ∈ ctx.project.scannedUnits target, ctx.project.isSource u →
      ∀ s, ctx.Occurs id target u s → ctx.project.Fits u s) :
    ∃ units, units.Sublist (ctx.project.scannedUnits target) ∧
      (∀ u, u ∈ units ↔ u ∈ ctx.project.scannedUnits target ∧ ctx.project.isSource u ∧
        ∃ s, ctx.Occurs id target u s) ∧
      List.Forall₂ (fun u doc => ∃ kept, ctx.RenamesIn id target newName u doc kept) units
        plan.documents := by
  obtain ⟨found, hfound, -, hrun⟩ := renameDefinition_eq_edit.mp h
  rw [hid] at hfound hrun
  obtain rfl : found = target := Option.some.inj (hfound.symm.trans htarget)
  refine ⟨_, List.filter_sublist, fun u => mem_filter_batch?_iff hrun fits, ?_⟩
  have hmember := fun u hu => (mem_filter_batch?_iff (u := u) hrun fits).mp hu
  rw [documents_of_foldlM hrun, List.nil_append]
  refine ((List.forall₂_and_left _ _).mpr ⟨hmember, forall₂_batch? _⟩).imp ?_
  rintro u doc ⟨⟨hu, hsource, -⟩, hbatch⟩
  exact renamesIn_of_batch? hbatch (fits u hu hsource)

/-- Renaming the constructor of the sample class changes both its units. -/
theorem renameDefinition_replaces_occurrences_of_sample :
    Sample.context.renameDefinition ⟨1⟩ "Spot" = .ok (.edit Sample.spotPlan) ∧
      Sample.context.Occurs ⟨0⟩ Sample.dot ⟨1⟩ ⟨11, 14⟩ ∧
      ∃ units, units.Sublist (Sample.context.project.scannedUnits Sample.dot) ∧
        (∀ u, u ∈ units ↔ u ∈ Sample.context.project.scannedUnits Sample.dot ∧
          Sample.context.project.isSource u ∧ ∃ s, Sample.context.Occurs ⟨0⟩ Sample.dot u s) ∧
        List.Forall₂
          (fun u doc => ∃ kept, Sample.context.RenamesIn ⟨0⟩ Sample.dot "Spot" u doc kept) units
          Sample.spotPlan.documents := by
  have htag : Sample.context.project.HasTag ⟨1⟩ ⟨0⟩ Sample.tag := ⟨_, rfl, rfl, rfl⟩
  refine ⟨Sample.renameDefinition_constructor, ?_, ?_⟩
  · exact .endTag htag rfl (Or.inl rfl) rfl
  · exact renameDefinition_replaces_occurrences Sample.renameDefinition_constructor rfl rfl
      fun _ hu _ _ hs => Sample.fits hu hs

end Context

end SymbolNav
