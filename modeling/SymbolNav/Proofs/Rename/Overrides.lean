import SymbolNav.Proofs.Rename.Cursor

/-!
# Overrides of one function

A chain of overrides leads from a function to the one that introduced it, its root. A chain with no
more links than are followed ends at the root from whichever function of it the search starts, so
all overrides of one function are renamed with the same plan or refused for the same reason. The
identifiers that resolve to any of them are occurrences of what is renamed.
-/

namespace SymbolNav

namespace Project

/-- The first function is marked as an override, and is linked to the second one as the function
that it overrides. A link from a function to itself does not count. -/
structure Overrides (p : Project) (d base : DefId) : Prop where
  marked : ∃ definition, p.definition? d = some definition ∧ definition.isOverride
  linked : p.overridden? d = some base
  other : base ≠ d

/-- A chain with the given number of links from a function to its root, which overrides nothing. -/
inductive OverrideChain (p : Project) : Nat → DefId → DefId → Prop where
  | root {d : DefId} (h : ∀ base, ¬ p.Overrides d base) : OverrideChain p 0 d d
  | link {n : Nat} {d base root : DefId} (h : p.Overrides d base)
      (rest : OverrideChain p n base root) : OverrideChain p (n + 1) d root

/-- The chain of a function ends at the root after at most 64 links. -/
def HasRoot (p : Project) (d root : DefId) : Prop :=
  ∃ links ≤ 64, p.OverrideChain links d root

end Project

/-- An identifier in the syntax tree of a unit that resolves to a function with the given root. -/
structure Context.NamesOverride (ctx : Context) (root : DefId) (u : UnitId) (i : NodeId)
    (node : SyntaxNode) : Prop where
  below : ∃ top, ctx.project.ast? u = some top ∧ ctx.project.Below top i
  node_eq : ctx.project.node? i = some node
  isIdentifier : node.isIdentifier
  resolves : ∃ d, ctx.resolver.identifier ctx.project i = .ok (some d) ∧ ctx.project.HasRoot d root

theorem Definition.isPackage_eq_false_of_isFunction {d : Definition} (h : d.isFunction) :
    d.isPackage = false := by
  unfold isFunction at h
  split at h
  · rename_i hkind
    rw [isPackage, hkind]
  · cases h

variable {ctx : Context} {p : Project} {d e base root : DefId} {n : Nat}

namespace Project

theorem nextBase?_eq_some : p.nextBase? d = some base ↔ p.Overrides d base := by
  unfold nextBase? defines
  constructor
  · intro h
    split at h
    · rename_i hmarked
      obtain ⟨hlinked, hother⟩ := Option.filter_eq_some_iff.mp h
      exact ⟨(Option.any_eq_true _ _).mp hmarked, hlinked, by simpa using hother⟩
    · cases h
  · rintro ⟨hmarked, hlinked, hother⟩
    rw [if_pos ((Option.any_eq_true _ _).mpr hmarked), hlinked]
    simpa [Option.filter_some] using hother

theorem nextBase?_eq_none : p.nextBase? d = none ↔ ∀ base, ¬ p.Overrides d base := by
  rw [Option.eq_none_iff_forall_not_mem]
  exact forall_congr' fun base => not_congr nextBase?_eq_some

namespace OverrideChain

/-- Followed for at least as many steps as it has links, a chain leads to its root. -/
theorem baseWithin_eq {steps : Nat} (h : p.OverrideChain n d root) (hsteps : n ≤ steps) :
    p.baseWithin steps d = root := by
  induction h generalizing steps with
  | @root d hroot =>
      cases steps with
      | zero => rfl
      | succ steps => rw [baseWithin, nextBase?_eq_none.mpr hroot]
  | link hlink _ ih =>
      obtain ⟨steps, rfl⟩ : ∃ k, steps = k + 1 := ⟨steps - 1, by omega⟩
      rw [baseWithin, nextBase?_eq_some.mpr hlink]
      exact ih (by omega)

theorem root_root (h : p.OverrideChain n d root) : p.OverrideChain 0 root root := by
  induction h with
  | root hroot => exact .root hroot
  | link _ _ ih => exact ih

/-- What a function overrides is one link nearer to the root. -/
theorem next (h : p.OverrideChain n d root) (hlink : p.Overrides d e) :
    ∃ m, n = m + 1 ∧ p.OverrideChain m e root := by
  cases h with
  | root hroot => exact absurd hlink (hroot e)
  | @link m _ base _ hfirst rest =>
      obtain rfl : base = e := Option.some.inj (hfirst.linked.symm.trans hlink.linked)
      exact ⟨m, rfl, rest⟩

end OverrideChain

namespace HasRoot

theorem baseDeclaration_eq (h : p.HasRoot d root) : p.baseDeclaration d = root := by
  obtain ⟨links, hlinks, hchain⟩ := h
  exact hchain.baseWithin_eq hlinks

theorem self (h : p.HasRoot d root) : p.HasRoot root root := by
  obtain ⟨links, -, hchain⟩ := h
  exact ⟨0, Nat.zero_le _, hchain.root_root⟩

/-- Every function on the way from a function to its root has the same root. -/
theorem of_reaches (h : p.HasRoot d root) (hreaches : Relation.ReflTransGen p.Overrides d e) :
    p.HasRoot e root := by
  induction hreaches with
  | refl => exact h
  | tail _ hlink ih =>
      obtain ⟨links, hlinks, hchain⟩ := ih
      obtain ⟨m, rfl, hrest⟩ := hchain.next hlink
      exact ⟨m, by omega, hrest⟩

theorem standsFor {target : Definition} (h : p.HasRoot d root)
    (htarget : p.definition? (p.renameTarget root) = some target) :
    p.StandsFor (p.renameTarget root) target d := by
  rw [← h.baseDeclaration_eq] at htarget ⊢
  exact standsFor_renameTarget htarget

end HasRoot

/-- A function that is not the constructor of its parent is renamed itself. -/
theorem renameTarget_of_not_constructor {function : Definition}
    (hfunction : p.definition? d = some function)
    (hparent : ∀ parent owner, function.parent = some parent → p.definition? parent = some owner →
      owner.constructor? ≠ some d) : p.renameTarget d = d := by
  have hnone : (((p.definition? d).filter (·.isFunction)).bind (·.parent)).filter
      (fun parent => p.defines parent (·.constructor? = some d)) = none := by
    refine Option.filter_eq_none_iff.mpr fun parent hfound hdefines => ?_
    obtain ⟨found, hfiltered, hparent'⟩ := Option.bind_eq_some_iff.mp hfound
    obtain ⟨hfound, -⟩ := Option.filter_eq_some_iff.mp hfiltered
    obtain rfl : found = function := Option.some.inj (hfound.symm.trans hfunction)
    obtain ⟨owner, howner, hconstructor⟩ := (Option.any_eq_true _ _).mp hdefines
    exact hparent parent owner hparent' howner (by simpa using hconstructor)
  simp only [renameTarget, hnone, Option.getD_none]

end Project

namespace Context

variable {newName : String}

/-- What stands in a library is not renamed, unless it is a package, which is refused as such. -/
theorem refusal?_of_library {target : Definition} (hpackage : target.isPackage = false)
    (hlibrary : ctx.options.isLibrary target.containingFile ∨
      ∃ u, ctx.project.unitForPath? target.containingFile = some u ∧
        ctx.project.unitKind? u = some .compiled) :
    ctx.refusal? target = some .compiledLibrary := by
  have hrefused : (((ctx.project.unitForPath? target.containingFile).bind
      ctx.project.unitKind?).any (!·.isSource) ||
        ctx.options.isLibrary target.containingFile) = true := by
    rcases hlibrary with hextension | ⟨u, hunit, hkind⟩
    · rw [hextension, Bool.or_true]
    · rw [hunit, Option.bind_some, hkind]
      rfl
  simp only [refusal?, hpackage, hrefused, Bool.false_eq_true, if_false, if_true]

/-- Where the plan is made from all units, each of them has been searched for the names of all
functions with the root. -/
theorem mem_scriptOccurrences_of_namesOverride {plan : RenamePlan} {target : Definition}
    {u : UnitId} {i : NodeId} {node : SyntaxNode}
    (h : ctx.renameDefinition d newName = .ok (.edit plan)) (hroot : ctx.project.HasRoot d root)
    (htarget : ctx.project.definition? (ctx.project.renameTarget root) = some target)
    (hlocal : target.isLocal = false) (hprivate : target.isPrivate = false)
    (hsource : ctx.project.isSource u) (hnames : ctx.NamesOverride root u i node) :
    ∃ spans, ctx.scriptOccurrences u
      (ctx.project.renameTarget root :: target.constructor?.toList) = .ok spans ∧
        node.span ∈ spans := by
  obtain ⟨found, hfound, -, hrun⟩ := renameDefinition_eq_edit.mp h
  rw [hroot.baseDeclaration_eq] at hfound hrun
  obtain rfl : found = target := Option.some.inj (hfound.symm.trans htarget)
  have hscanned : u ∈ ctx.project.scannedUnits found :=
    mem_scannedUnits hsource (by simp [hlocal, hprivate])
  obtain ⟨spans, hspans⟩ := (searched_of_foldlM hrun hscanned).2 hsource
  obtain ⟨script, hscript, -⟩ := Answer.bind_eq_ok.mp hspans
  obtain ⟨top, hast, hbelow⟩ := hnames.below
  obtain ⟨e, hresolved, he⟩ := hnames.resolves
  refine ⟨script, hscript, (mem_scriptOccurrences_iff hscript).mpr ⟨i, node, ?_, rfl⟩⟩
  exact ⟨top, hast, hbelow, hnames.node_eq, hnames.isIdentifier, e, hresolved,
    he.standsFor htarget⟩

/-- All overrides of a function are renamed as one. Functions whose chains end at the same root
after at most 64 links have the root as their declaration, as has every function in between, and
are renamed with the same result. It is a refusal if the root is a method of a library, and a plan
that is made from all units has looked for the names of all functions with the root. -/
theorem overrides_rename_as_one {f g : DefId} (hf : ctx.project.HasRoot f root)
    (hg : ctx.project.HasRoot g root) (newName : String) :
    ctx.project.baseDeclaration f = root ∧ ctx.project.baseDeclaration root = root ∧
      (∀ e, Relation.ReflTransGen ctx.project.Overrides f e →
        ctx.project.baseDeclaration e = root) ∧
      ctx.renameDefinition f newName = ctx.renameDefinition g newName ∧
      (∀ function, ctx.project.definition? root = some function → function.isFunction →
        (∀ parent owner, function.parent = some parent →
          ctx.project.definition? parent = some owner → owner.constructor? ≠ some root) →
        (ctx.options.isLibrary function.containingFile ∨
          ∃ u, ctx.project.unitForPath? function.containingFile = some u ∧
            ctx.project.unitKind? u = some .compiled) →
        ctx.renameDefinition f newName = .ok (.refused .compiledLibrary)) ∧
      ∀ plan target, ctx.renameDefinition f newName = .ok (.edit plan) →
        ctx.project.definition? (ctx.project.renameTarget root) = some target →
        target.isLocal = false → target.isPrivate = false →
        ∀ u i node, ctx.project.isSource u → ctx.NamesOverride root u i node →
          ∃ spans, ctx.scriptOccurrences u
            (ctx.project.renameTarget root :: target.constructor?.toList) = .ok spans ∧
              node.span ∈ spans := by
  refine ⟨hf.baseDeclaration_eq, hf.self.baseDeclaration_eq,
    fun e he => (hf.of_reaches he).baseDeclaration_eq, ?_, ?_, ?_⟩
  · apply renameDefinition_congr
    rw [hf.baseDeclaration_eq, hg.baseDeclaration_eq]
  · intro function hfunction hkind hparent hlibrary
    have htarget : ctx.project.renameTarget root = root :=
      Project.renameTarget_of_not_constructor hfunction hparent
    have hpackage := Definition.isPackage_eq_false_of_isFunction hkind
    have hrefusal := refusal?_of_library hpackage hlibrary
    simp only [renameDefinition, hf.baseDeclaration_eq, htarget, hfunction, hrefusal]
  · intro plan target hplan htarget hlocal hprivate u i node hsource hnames
    exact mem_scriptOccurrences_of_namesOverride hplan hf htarget hlocal hprivate hsource hnames

end Context

namespace OverrideSample

/-! Sixty-five methods, each of which overrides the one before it, and a script that names the last
one. -/

def method (isOverride : Bool) : Definition :=
  ⟨"draw", "Dot.draw", .function .classMember isOverride, .pub, ⟨"/p/Dot.as"⟩, none, none⟩

def snapshot : Snapshot where
  units := [⟨⟨"/p/Dot.as"⟩, .script, some "draw", some ⟨0⟩, .ready [], none, [], none⟩]
  nodes := [⟨.identifier "draw", ⟨0, 4⟩, none, []⟩]
  definitions := method false :: List.replicate 64 (method true)
  bindings := [⟨⟨0⟩, ⟨64⟩⟩]
  overrides := (List.range 64).map fun i => ⟨⟨i + 1⟩, ⟨i⟩⟩

def context : Context where
  project := .ofSnapshot {} snapshot

def paintPlan : RenamePlan where
  documents := [⟨⟨"/p/Dot.as"⟩, [⟨⟨⟨0, 0⟩, ⟨0, 4⟩⟩, "paint"⟩]⟩]

theorem overrides {k : Nat} (hk : k < 64) : context.project.Overrides ⟨k + 1⟩ ⟨k⟩ := by
  have hlinks : ∀ k < 64, context.project.overridden? ⟨k + 1⟩ = some ⟨k⟩ := by decide +kernel
  have hmethod : (List.replicate 64 (method true))[k]? = some (method true) := by
    rw [List.getElem?_replicate, if_pos hk]
  exact ⟨⟨method true, hmethod, rfl⟩, hlinks k hk, by simp⟩

theorem chain {k : Nat} (hk : k ≤ 64) : context.project.OverrideChain k ⟨k⟩ ⟨0⟩ := by
  induction k with
  | zero =>
      refine .root ?_
      rintro base ⟨⟨definition, hdefinition, hmarked⟩, -, -⟩
      cases hdefinition
      cases hmarked
  | succ k ih => exact .link (overrides (by omega)) (ih (by omega))

theorem hasRoot {k : Nat} (hk : k ≤ 64) : context.project.HasRoot ⟨k⟩ ⟨0⟩ :=
  ⟨k, hk, chain hk⟩

theorem renameDefinition_first : context.renameDefinition ⟨1⟩ "paint" = .ok (.edit paintPlan) := by
  have hscan : context.scanUnit ⟨0⟩ (method false) "paint" {} ⟨0⟩ = .ok paintPlan := by
    refine Context.scanUnit_eq_ok.mpr ⟨rfl, Or.inr ⟨⟨"/p/Dot.as"⟩, [⟨0, 4⟩], rfl, rfl, ?_, ?_⟩⟩
    · decide +kernel
    · rw [Context.unitEdits, Rename.disjoint_eq_self (by decide) (by decide)]
      rfl
  refine Context.renameDefinition_eq_edit.mpr ⟨method false, ?_, ?_, ?_⟩
  · rw [(hasRoot (by omega)).baseDeclaration_eq]
    rfl
  · rfl
  · rw [(hasRoot (by omega)).baseDeclaration_eq]
    exact Answer.bind_eq_ok.mpr ⟨_, hscan, rfl⟩

end OverrideSample

/-- The longest chain that is followed. The script names its last method, and renaming the first
override changes that name. -/
theorem Context.overrides_rename_as_one_of_longest_chain :
    OverrideSample.context.project.HasRoot ⟨64⟩ ⟨0⟩ ∧
      OverrideSample.context.project.HasRoot ⟨1⟩ ⟨0⟩ ∧
      OverrideSample.context.project.baseDeclaration ⟨64⟩ = ⟨0⟩ ∧
      OverrideSample.context.renameDefinition ⟨64⟩ "paint" =
        .ok (.edit OverrideSample.paintPlan) ∧
      ∃ spans, OverrideSample.context.scriptOccurrences ⟨0⟩ [⟨0⟩] = .ok spans ∧
        ⟨0, 4⟩ ∈ spans := by
  have hlast := OverrideSample.hasRoot (Nat.le_refl 64)
  have hfirst : OverrideSample.context.project.HasRoot ⟨1⟩ ⟨0⟩ := OverrideSample.hasRoot (by omega)
  obtain ⟨hbase, -, -, hsame, -, hnames⟩ :=
    Context.overrides_rename_as_one hlast hfirst "paint"
  have hplan := hsame.trans OverrideSample.renameDefinition_first
  refine ⟨hlast, hfirst, hbase, hplan, ?_⟩
  exact hnames _ (OverrideSample.method false) hplan rfl rfl rfl ⟨0⟩ ⟨0⟩ _ rfl
    ⟨⟨⟨0⟩, rfl, .refl⟩, rfl, rfl, ⟨64⟩, rfl, hlast⟩

end SymbolNav
