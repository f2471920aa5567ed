import SymbolNav.Navigation.DocReference
import SymbolNav.Navigation.Locate
import SymbolNav.Navigation.MarkupTarget
import SymbolNav.Proofs.Navigation.Answers

/-!
# Projects with the same symbols

What a name refers to depends on the nodes, the definitions and the bindings of a project, and on
what its units declare at their top, where a scope that failed counts as empty. It does not depend
on the texts, trees, markup and comments of the units. So projects that agree on the former resolve
every node and every reference in the same way. A fallback that is not the standard one may look at
whatever it likes; for such a fallback agreement is assumed.
-/

namespace SymbolNav

namespace Project

/-- The two projects agree on nodes, definitions, bindings and overrides, and their units declare
the same definitions at their top. -/
structure SameSymbols (p q : Project) : Prop where
  nodes : p.snapshot.nodes = q.snapshot.nodes
  definitions : p.snapshot.definitions = q.snapshot.definitions
  bindings : p.snapshot.bindings = q.snapshot.bindings
  tagBindings : p.snapshot.tagBindings = q.snapshot.tagBindings
  overrides : p.snapshot.overrides = q.snapshot.overrides
  units : p.units = q.units
  scopes : p.scopeOrEmpty = q.scopeOrEmpty

end Project

/-- No fallback of the resolver but perhaps the standard one tells the two projects apart. -/
def Resolver.SameOn (r : Resolver) (p q : Project) : Prop :=
  ∀ fallback ∈ r.fallbacks, fallback = Project.qualified ∨ ∀ id, fallback p id = fallback q id

theorem Resolver.sameOn_standard (p q : Project) : Resolver.standard.SameOn p q := by
  intro fallback hfallback
  exact Or.inl (List.mem_singleton.mp hfallback)

theorem Resolver.sameOn_bindingsOnly (p q : Project) : Resolver.bindingsOnly.SameOn p q := by
  intro fallback hfallback
  exact absurd hfallback List.not_mem_nil

namespace Project.SameSymbols

variable {p q : Project}

theorem node?_eq (h : p.SameSymbols q) : p.node? = q.node? := by
  funext id
  rw [node?, node?, h.nodes]

theorem definition?_eq (h : p.SameSymbols q) : p.definition? = q.definition? := by
  funext d
  rw [definition?, definition?, h.definitions]

theorem binding?_eq (h : p.SameSymbols q) : p.binding? = q.binding? := by
  funext id
  rw [binding?, binding?, h.bindings]

theorem tagBinding?_eq (h : p.SameSymbols q) : p.tagBinding? = q.tagBinding? := by
  funext u t
  rw [tagBinding?, tagBinding?, h.tagBindings]

theorem attributeBinding?_eq (h : p.SameSymbols q) : p.attributeBinding? = q.attributeBinding? := by
  funext u t attr
  rw [attributeBinding?, attributeBinding?, h.tagBindings]

theorem defines_eq (h : p.SameSymbols q) : p.defines = q.defines := by
  funext d property
  rw [defines, defines, h.definition?_eq]

/-! ### Definitions -/

theorem nextBase?_eq (h : p.SameSymbols q) : p.nextBase? = q.nextBase? := by
  funext d
  simp only [nextBase?, overridden?, h.defines_eq, h.overrides]

theorem baseWithin_eq (h : p.SameSymbols q) (steps : Nat) (d : DefId) :
    p.baseWithin steps d = q.baseWithin steps d := by
  induction steps generalizing d with
  | zero => rfl
  | succ steps ih =>
      rw [baseWithin, baseWithin, h.nextBase?_eq]
      cases q.nextBase? d with
      | none => rfl
      | some base => exact ih base

theorem baseDeclaration_eq (h : p.SameSymbols q) : p.baseDeclaration = q.baseDeclaration := by
  funext d
  exact h.baseWithin_eq overrideLimit d

theorem topLevel_eq (h : p.SameSymbols q) : p.topLevel = q.topLevel := by
  funext u
  rw [topLevel, topLevel, h.scopes, h.definition?_eq]

theorem isPrincipal_eq (h : p.SameSymbols q) : p.isPrincipal = q.isPrincipal := by
  funext u d
  simp only [isPrincipal, h.defines_eq, h.topLevel_eq]

theorem byQualifiedName?_eq (h : p.SameSymbols q) : p.byQualifiedName? = q.byQualifiedName? := by
  funext name
  simp only [byQualifiedName?, h.units, h.topLevel_eq, h.defines_eq]

theorem packageOrDefinition?_eq (h : p.SameSymbols q) :
    p.packageOrDefinition? = q.packageOrDefinition? := by
  funext name
  simp only [packageOrDefinition?, packageByName?, h.byQualifiedName?_eq, h.units, h.scopes,
    h.defines_eq]

/-! ### Nodes -/

theorem dottedName_eq (h : p.SameSymbols q) (depth : Nat) (id : NodeId) :
    p.dottedName depth id = q.dottedName depth id := by
  induction depth generalizing id with
  | zero =>
      unfold dottedName
      rw [h.node?_eq]
  | succ depth ih =>
      unfold dottedName
      simp only [h.node?_eq, ih]

theorem qualified_eq (h : p.SameSymbols q) : p.qualified = q.qualified := by
  funext id
  simp only [qualified, qualifier, h.node?_eq, h.nodes, h.dottedName_eq, h.packageOrDefinition?_eq]

theorem isInStyleBlock_eq (h : p.SameSymbols q) : p.isInStyleBlock = q.isInStyleBlock := by
  have hstep : p.parentUnlessStyle? = q.parentUnlessStyle? := by
    funext id
    simp only [parentUnlessStyle?, h.node?_eq]
  funext id
  simp only [isInStyleBlock, hstep, h.nodes, h.node?_eq]

theorem keywordTarget_eq (h : p.SameSymbols q) : p.keywordTarget = q.keywordTarget := by
  have hstep : p.parentUnlessClass? = q.parentUnlessClass? := by
    funext id
    simp only [parentUnlessClass?, h.node?_eq]
  funext id word
  simp only [keywordTarget, enclosingClass, hstep, h.nodes, h.node?_eq, h.binding?_eq]

theorem preferConstructor_eq (h : p.SameSymbols q) :
    p.preferConstructor = q.preferConstructor := by
  funext id d
  simp only [preferConstructor, h.node?_eq, h.definition?_eq]

theorem innermostNode_eq (h : p.SameSymbols q) : p.innermostNode = q.innermostNode := by
  funext root offset
  have hstep : p.childAt? offset = q.childAt? offset := by
    funext id
    simp only [childAt?, h.node?_eq]
  simp only [innermostNode, hstep, h.nodes, h.node?_eq]

/-! ### References by resolvers and comments -/

variable {r : Resolver}

theorem identifier_eq (h : p.SameSymbols q) (hr : r.SameOn p q) :
    r.identifier p = r.identifier q := by
  funext id
  have hfallbacks : (r.fallbacks.findSomeM? fun fallback => fallback p id) =
      r.fallbacks.findSomeM? fun fallback => fallback q id := by
    refine Answer.findSomeM?_congr fun fallback hfallback => ?_
    rcases hr fallback hfallback with rfl | hsame
    · rw [h.qualified_eq]
    · exact hsame id
  simp only [Resolver.identifier, h.binding?_eq, hfallbacks]

theorem forNavigation_eq (h : p.SameSymbols q) (hr : r.SameOn p q) :
    r.forNavigation p = r.forNavigation q := by
  funext id
  simp only [Resolver.forNavigation, h.node?_eq, h.identifier_eq hr, h.keywordTarget_eq,
    h.preferConstructor_eq]

theorem forRename_eq (h : p.SameSymbols q) (hr : r.SameOn p q) : r.forRename p = r.forRename q := by
  funext id
  simp only [Resolver.forRename, h.node?_eq, h.binding?_eq, h.identifier_eq hr]

theorem referenceTarget?_eq (h : p.SameSymbols q) : p.referenceTarget? = q.referenceTarget? := by
  funext u reference
  simp only [referenceTarget?, typeByName?, memberByName?, primary?, packageName?,
    h.byQualifiedName?_eq, h.defines_eq, h.definition?_eq, h.scopes, h.topLevel_eq]

theorem docReference?_eq (h : p.SameSymbols q) : p.docReference? = q.docReference? := by
  funext u comment position
  simp only [docReference?, h.referenceTarget?_eq]

end Project.SameSymbols

end SymbolNav
