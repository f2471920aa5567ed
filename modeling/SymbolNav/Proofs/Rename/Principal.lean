import SymbolNav.Proofs.Rename.Cursor
import SymbolNav.Proofs.Rename.FileNames
import SymbolNav.Proofs.Rename.Stability

/-!
# The file that is renamed with a definition

Each unit of a run proposes to rename its file if the target is one of its definitions at package
level, and the first proposal is kept. Constructors stand for their classes, so a target is never
the constructor of another definition, and only being at package level counts. A unit that declares
the target is always among those that are searched: a hidden target is searched for in the unit of
its file, and where units have different paths and definitions stand in the files of their units,
this is the unit that declares it.
-/

namespace SymbolNav

namespace Project

/-- The definition is a member of a package in the file scope of the unit. -/
def Declares (p : Project) (u : UnitId) (d : DefId) : Prop :=
  ∃ scope id package, p.fileScope u = .ok scope ∧ id ∈ scope ∧ p.definition? id = some package ∧
    package.isPackage ∧ d ∈ package.members

/-- No two units have the same path. -/
def DistinctPaths (p : Project) : Prop :=
  ∀ {u v : UnitId} {path path' : Path}, p.unitPath? u = some path → p.unitPath? v = some path' →
    path.same path' → u = v

/-- What a unit declares at package level names the file of the unit as its own. -/
def DeclaredInPlace (p : Project) : Prop :=
  ∀ {u : UnitId} {d : DefId} {path : Path} {definition : Definition}, p.unitPath? u = some path →
    p.Declares u d → p.definition? d = some definition → definition.containingFile.same path

end Project

/-- The file rename that a unit proposes. -/
def Context.proposal? (ctx : Context) (id : DefId) (newName : String) (u : UnitId) :
    Option FileRename :=
  if ctx.options.fileRename && ctx.project.isPrincipal u id then
    ((ctx.project.unitPath? u).filter fun _ => ctx.project.isSource u).map fun path =>
      ⟨path, path.renamed newName⟩
  else none

theorem Path.same_iff {p q : Path} : p.same q ↔ p.components = q.components :=
  decide_eq_true_iff

variable {ctx : Context} {p : Project} {d id : DefId} {target : Definition} {u : UnitId}
variable {newName : String} {plan plan' : RenamePlan} {path : Path} {move : FileRename}

namespace Project

theorem mem_topLevel_iff : d ∈ p.topLevel u ↔ p.Declares u d := by
  simp only [topLevel, List.mem_flatMap, List.mem_filter, List.mem_filterMap]
  constructor
  · rintro ⟨package, ⟨⟨id, hscope, hpackage⟩, hkind⟩, hmember⟩
    cases hfile : p.fileScope u with
    | error e =>
        rw [scopeOrEmpty, hfile] at hscope
        cases hscope
    | ok scope =>
        rw [scopeOrEmpty, hfile] at hscope
        exact ⟨scope, id, package, hfile, hscope, hpackage, hkind, hmember⟩
  · rintro ⟨scope, id, package, hfile, hscope, hpackage, hkind, hmember⟩
    refine ⟨package, ⟨⟨id, ?_, hpackage⟩, hkind⟩, hmember⟩
    rw [scopeOrEmpty, hfile]
    exact hscope

/-- What is renamed itself is not the constructor of a class, so a unit is named after it only if it
declares it. -/
theorem isPrincipal_iff (hconstructors : p.ConstructorsBelong) (hself : p.renameTarget id = id) :
    p.isPrincipal u id ↔ p.Declares u id := by
  rw [← mem_topLevel_iff, isPrincipal, List.any_eq_true]
  constructor
  · rintro ⟨owner, hmember, howner⟩
    simp only [Bool.or_eq_true, Bool.and_eq_true, decide_eq_true_eq] at howner
    cases howner with
    | inl heq => exact heq ▸ hmember
    | inr hconstructor =>
        obtain ⟨definition, hdefinition, hconstructs⟩ :=
          (Option.any_eq_true _ _).mp hconstructor.2
        have howned := renameTarget_constructor hconstructors hdefinition
          (of_decide_eq_true hconstructs)
        rw [← hself, howned]
        exact hmember
  · intro hmember
    exact ⟨id, hmember, by simp⟩

/-- Where paths differ, a unit is found by any spelling of its path. -/
theorem unitForPath?_eq (hpaths : p.DistinctPaths) {path' : Path} (hpath : p.unitPath? u = some path)
    (hsame : path'.same path) : p.unitForPath? path' = some u := by
  obtain ⟨unit, hunit, rfl⟩ := Option.map_eq_some_iff.mp hpath
  have hmember : (unit, u.index) ∈ p.snapshot.units.zipIdx.reverse :=
    List.mem_reverse.mpr (List.mem_zipIdx_iff_getElem?.mpr hunit)
  have hfound : (p.snapshot.units.zipIdx.reverse.find? fun v => v.1.path.same path').isSome := by
    rw [List.find?_isSome]
    exact ⟨_, hmember, Path.same_iff.mpr (Path.same_iff.mp hsame).symm⟩
  obtain ⟨⟨other, index⟩, hother⟩ := Option.isSome_iff_exists.mp hfound
  have hindex : p.unitPath? ⟨index⟩ = some other.path := by
    have hget := List.mem_zipIdx_iff_getElem?.mp
      (List.mem_reverse.mp (List.mem_of_find?_eq_some hother))
    exact congrArg (Option.map (·.path)) hget
  have hother' := List.find?_some hother
  have hunique : (⟨index⟩ : UnitId) = u := by
    refine hpaths hindex hpath (Path.same_iff.mpr ?_)
    exact (Path.same_iff.mp hother').trans (Path.same_iff.mp hsame)
  rw [unitForPath?, lastWith?, hother, ← hunique]
  rfl

end Project

namespace Context

theorem proposal?_eq_some : ctx.proposal? id newName u = some move ↔
    ctx.options.fileRename ∧ ctx.project.isPrincipal u id ∧ ctx.project.isSource u ∧
      ctx.project.unitPath? u = some move.source ∧ move.target = move.source.renamed newName := by
  rw [proposal?]
  split
  · rename_i hproposed
    rw [Bool.and_eq_true] at hproposed
    rw [Option.map_eq_some_iff]
    constructor
    · rintro ⟨path, hpath, rfl⟩
      obtain ⟨hsource, hpath⟩ := Project.filter_unitPath?_eq_some.mp hpath
      exact ⟨hproposed.1, hproposed.2, hsource, hpath, rfl⟩
    · rintro ⟨-, -, hsource, hpath, htarget⟩
      refine ⟨move.source, Project.filter_unitPath?_eq_some.mpr ⟨hsource, hpath⟩, ?_⟩
      rw [← htarget]
  · rename_i hproposed
    rw [Bool.and_eq_true] at hproposed
    constructor
    · intro hnone
      cases hnone
    · rintro ⟨hoption, hprincipal, -⟩
      exact absurd ⟨hoption, hprincipal⟩ hproposed

/-- One unit adds its proposal unless there is one already. -/
theorem fileRename_of_scanUnit (h : ctx.scanUnit id target newName plan u = .ok plan') :
    plan'.fileRename = plan.fileRename.or (ctx.proposal? id newName u) := by
  obtain ⟨-, ⟨hsource, rfl⟩ | ⟨path, spans, hsource, hpath, -, rfl⟩⟩ := scanUnit_eq_ok.mp h
  · simp [proposal?, hsource]
  · cases hplan : plan.fileRename with
    | some move => simp
    | none => simp [proposal?, hsource, hpath, Option.filter_some]

/-- The first proposal of a run is kept. -/
theorem fileRename_of_foldlM {units : List UnitId}
    (h : units.foldlM (ctx.scanUnit id target newName) plan = .ok plan') :
    plan'.fileRename = plan.fileRename.or (units.findSome? (ctx.proposal? id newName)) := by
  induction units generalizing plan with
  | nil =>
      cases h
      simp
  | cons u units ih =>
      rw [List.foldlM_cons] at h
      obtain ⟨next, hnext, hrest⟩ := Answer.bind_eq_ok.mp h
      rw [ih hrest, fileRename_of_scanUnit hnext, Option.or_assoc, List.findSome?_cons]
      cases ctx.proposal? id newName u with
      | none => rfl
      | some move => rfl

/-- A unit that declares the target is searched for it. -/
theorem mem_scannedUnits_of_declares (hpaths : ctx.project.DistinctPaths)
    (hfiles : ctx.project.DeclaredInPlace) (htarget : ctx.project.definition? id = some target)
    (hsource : ctx.project.isSource u) (hdeclares : ctx.project.Declares u id) :
    u ∈ ctx.project.scannedUnits target := by
  refine mem_scannedUnits hsource ?_
  intro _
  obtain ⟨path, hpath⟩ := Project.exists_unitPath?_of_isSource hsource
  exact Project.unitForPath?_eq hpaths hpath (hfiles hpath hdeclares htarget)

/-- The target of a definition is renamed itself. -/
theorem isPrincipal_target_iff (hconstructors : ctx.project.ConstructorsBelong)
    (hid : ctx.project.renameTarget (ctx.project.baseDeclaration d) = id) :
    ctx.project.isPrincipal u id ↔ ctx.project.Declares u id := by
  refine Project.isPrincipal_iff hconstructors ?_
  rw [← hid]
  exact ctx.project.renameTarget_renameTarget _

/-- A file is renamed with a definition exactly if this is wanted and the target is declared at
package level in a unit with a source. It is the file that the target names as its own, also if the
rename was asked for at the constructor of the target or at an override of it. The new path differs
from the old one in the stem of the file name only. -/
theorem fileRename_for_principal_definition (hpaths : ctx.project.DistinctPaths)
    (hfiles : ctx.project.DeclaredInPlace) (hconstructors : ctx.project.ConstructorsBelong)
    (h : ctx.renameDefinition d newName = .ok (.edit plan))
    (hid : ctx.project.renameTarget (ctx.project.baseDeclaration d) = id)
    (htarget : ctx.project.definition? id = some target) :
    (plan.fileRename.isSome ↔
        ctx.options.fileRename ∧ ∃ u, ctx.project.isSource u ∧ ctx.project.Declares u id) ∧
      (∀ e, ctx.project.StandsFor id target e →
        ctx.renameDefinition e newName = .ok (.edit plan)) ∧
      ∀ move, plan.fileRename = some move →
        target.containingFile.same move.source ∧
          (∃ u, ctx.project.unitPath? u = some move.source ∧ ctx.project.isSource u ∧
            ctx.project.Declares u id) ∧
          (move.source.fileName?.isSome → newName.toList ≠ [] → '/' ∉ newName.toList →
            '.' ∉ newName.toList →
            move.target.parent? = move.source.parent? ∧
              move.target.extension? = move.source.extension? ∧
              move.target.stem? = some newName.toList) := by
  obtain ⟨found, hfound, -, hrun⟩ := renameDefinition_eq_edit.mp h
  rw [hid] at hfound hrun
  obtain rfl : found = target := Option.some.inj (hfound.symm.trans htarget)
  have hmove : plan.fileRename =
      (ctx.project.scannedUnits found).findSome? (ctx.proposal? id newName) :=
    fileRename_of_foldlM hrun
  refine ⟨?_, ?_, ?_⟩
  · rw [hmove, List.findSome?_isSome_iff]
    constructor
    · rintro ⟨u, -, hproposal⟩
      obtain ⟨move, hproposal⟩ := Option.isSome_iff_exists.mp hproposal
      obtain ⟨hoption, hprincipal, hsource, -, -⟩ := proposal?_eq_some.mp hproposal
      exact ⟨hoption, u, hsource, (isPrincipal_target_iff hconstructors hid).mp hprincipal⟩
    · rintro ⟨hoption, u, hsource, hdeclares⟩
      obtain ⟨path, hpath⟩ := Project.exists_unitPath?_of_isSource hsource
      have hprincipal := (isPrincipal_target_iff hconstructors hid).mpr hdeclares
      have hproposal : ctx.proposal? id newName u = some ⟨path, path.renamed newName⟩ :=
        proposal?_eq_some.mpr ⟨hoption, hprincipal, hsource, hpath, rfl⟩
      refine ⟨u, mem_scannedUnits_of_declares hpaths hfiles htarget hsource hdeclares, ?_⟩
      rw [hproposal]
      rfl
  · intro e hstands
    rw [← h]
    apply renameDefinition_congr
    rw [hid]
    exact Project.renameTarget_of_standsFor hconstructors hid htarget hstands
  · intro move hsome
    rw [hmove] at hsome
    obtain ⟨u, -, hproposal⟩ := List.exists_of_findSome?_eq_some hsome
    obtain ⟨-, hprincipal, hsource, hpath, hrenamed⟩ := proposal?_eq_some.mp hproposal
    have hdeclares := (isPrincipal_target_iff hconstructors hid).mp hprincipal
    refine ⟨hfiles hpath hdeclares htarget, ⟨u, hpath, hsource, hdeclares⟩, ?_⟩
    rw [hrenamed]
    exact Path.renamed_keeps

end Context

namespace PrincipalSample

/-! A private class with its constructor, and a unit whose file scope failed. The path of the unit
that declares the class is written with slashes that do not count. -/

def shapes : Definition :=
  ⟨"shapes", "shapes", .package [⟨1⟩], .pub, ⟨"/p/Dot.as"⟩, none, none⟩

def dot : Definition :=
  ⟨"Dot", "shapes.Dot", .classType (some ⟨2⟩) [], .priv, ⟨"/p/Dot.as"⟩, some ⟨0⟩, none⟩

def dotConstructor : Definition :=
  ⟨"Dot", "shapes.Dot.Dot", .function .classMember false, .pub, ⟨"/p/Dot.as"⟩, some ⟨1⟩, none⟩

def own : UnitSnapshot :=
  ⟨⟨"/p//Dot.as/"⟩, .script, some "", none, .ready [⟨0⟩], none, [], none⟩

def broken : UnitSnapshot :=
  ⟨⟨"/p/Main.as"⟩, .script, some "", none, .failed "syntax", none, [], none⟩

def snapshot : Snapshot where
  units := [own, broken]
  definitions := [shapes, dot, dotConstructor]

def context : Context where
  project := .ofSnapshot {} snapshot

def spotMove : FileRename :=
  ⟨⟨"/p//Dot.as/"⟩, ⟨"/p/Spot.as"⟩⟩

theorem renameDefinition_constructor :
    context.renameDefinition ⟨2⟩ "Spot" = .ok (.edit ⟨[], some spotMove⟩) := by
  have hscan : context.scanUnit ⟨1⟩ dot "Spot" {} ⟨0⟩ = .ok ⟨[], some spotMove⟩ := by
    refine Context.scanUnit_eq_ok.mpr ⟨rfl, Or.inr ⟨own.path, [], rfl, rfl, rfl, ?_⟩⟩
    rw [Context.unitEdits, Rename.disjoint_eq_self (by decide) (by decide)]
    decide +kernel
  refine Context.renameDefinition_eq_edit.mpr ⟨dot, rfl, by decide +kernel, ?_⟩
  have hunits : context.project.scannedUnits dot = [⟨0⟩] := by decide +kernel
  rw [hunits]
  exact Answer.bind_eq_ok.mpr ⟨_, hscan, rfl⟩

theorem declares_dot : context.project.Declares ⟨0⟩ ⟨1⟩ :=
  ⟨[⟨0⟩], ⟨0⟩, shapes, rfl, List.mem_singleton_self _, rfl, rfl, List.mem_singleton_self _⟩

theorem distinctPaths : context.project.DistinctPaths := by
  have hdiffer : own.path.same broken.path = false ∧ broken.path.same own.path = false := by
    decide +kernel
  rintro ⟨_ | _ | u⟩ ⟨_ | _ | v⟩ path path' hpath hpath' hsame <;> cases hpath <;> cases hpath'
  · rfl
  · exact absurd hsame (by simp [hdiffer.1])
  · exact absurd hsame (by simp [hdiffer.2])
  · rfl

theorem declaredInPlace : context.project.DeclaredInPlace := by
  have hsame : dot.containingFile.same own.path := by decide +kernel
  rintro ⟨_ | _ | u⟩ d path definition hpath hdeclares hdefinition
  · obtain ⟨scope, id, package, hscope, hid, hpackage, -, hmember⟩ := hdeclares
    cases hscope
    obtain rfl := List.mem_singleton.mp hid
    cases hpackage
    obtain rfl := List.mem_singleton.mp hmember
    cases hdefinition
    cases hpath
    exact hsame
  · obtain ⟨scope, id, package, hscope, -⟩ := hdeclares
    cases hscope
  · cases hpath

theorem constructorsBelong : context.project.ConstructorsBelong := by
  rintro ⟨_ | _ | _ | owner⟩ constructor definition hdefinition hconstructor
  · cases hdefinition
    cases hconstructor
  · cases hdefinition
    cases hconstructor
    exact ⟨dotConstructor, rfl, rfl, rfl⟩
  · cases hdefinition
    cases hconstructor
  · cases hdefinition

end PrincipalSample

/-- Renaming the constructor moves the file of the private class. -/
theorem Context.fileRename_for_principal_definition_of_sample :
    PrincipalSample.context.project.Declares ⟨0⟩ ⟨1⟩ ∧
      PrincipalSample.context.renameDefinition ⟨2⟩ "Spot" =
        .ok (.edit ⟨[], some PrincipalSample.spotMove⟩) ∧
      PrincipalSample.context.renameDefinition ⟨1⟩ "Spot" =
        .ok (.edit ⟨[], some PrincipalSample.spotMove⟩) ∧
      PrincipalSample.dot.containingFile.same PrincipalSample.spotMove.source ∧
      PrincipalSample.spotMove.target.parent? = PrincipalSample.spotMove.source.parent? ∧
      PrincipalSample.spotMove.target.extension? = PrincipalSample.spotMove.source.extension? ∧
      PrincipalSample.spotMove.target.stem? = some "Spot".toList := by
  obtain ⟨-, hsame, hmove⟩ := Context.fileRename_for_principal_definition
    PrincipalSample.distinctPaths PrincipalSample.declaredInPlace PrincipalSample.constructorsBelong
    PrincipalSample.renameDefinition_constructor rfl rfl
  obtain ⟨hsource, -, hpath⟩ := hmove PrincipalSample.spotMove rfl
  refine ⟨PrincipalSample.declares_dot, PrincipalSample.renameDefinition_constructor,
    hsame ⟨1⟩ (Or.inl rfl), hsource, ?_⟩
  exact hpath (by decide +kernel) (by decide) (by decide) (by decide)

end SymbolNav
