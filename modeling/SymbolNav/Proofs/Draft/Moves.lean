import SymbolNav.Draft.Step
import SymbolNav.Proofs.Lists
import SymbolNav.Proofs.Text.Search

/-!
# The moves behind the steps

However many steps there are, they are made of a few operations: a unit is added with its root, a
markup unit is scanned, a node, an identifier or a declaration is added to the tree of a unit, a
class declaration is told what it extends, and a definition is added. All else that a step does
leaves the nodes as they are, and changes nothing in a unit but its scope, the class of its root tag
and its documentation comments, and nothing in a definition but its kind and its visibility. A
property that the operations keep and that depends on nothing else is therefore kept by every step,
and by every sequence of steps.

The operations are made of simpler moves in turn. For a property that does not care for the kinds of
nodes it is enough that these moves keep it.
-/

namespace SymbolNav

/-- A unit without what steps change in it once it is there. -/
def UnitSnapshot.source (unit : UnitSnapshot) : UnitSnapshot :=
  { unit with scope := .ready [], rootDefinition := none, docComments := [] }

/-- A definition without what steps change in it once it is there. -/
def Definition.heading (definition : Definition) : Definition :=
  { definition with kind := .package [], visibility := .pub }

namespace Draft

/-- Where the computation succeeds, it keeps the property. -/
def Keeps {α : Type} (P : Draft → Prop) (x : Build α) : Prop :=
  ∀ d a d', x.run d = .ok (a, d') → P d → P d'

/-- The kind of the node that a step adds as it is told. -/
def Step.givenKind? : Step → Option NodeKind
  | .node _ kind _ => some kind
  | .nodeAt _ kind _ _ => some kind
  | _ => none

/-- The unit in which a step looks for the name of the definition that it adds. -/
def Step.declaresIn? : Step → Option UnitId
  | .package u _ => some u
  | .classDecl u _ _ => some u
  | .method u _ _ => some u
  | .localFunction u _ _ => some u
  | .constructor u _ => some u
  | .field u _ _ => some u
  | .localVariable u _ _ => some u
  | .idField u _ _ => some u
  | _ => none

/-- The texts of the units and the roots of their trees. -/
def trees (d : Draft) : List (Option String × Option NodeId) :=
  d.units.map fun unit => (unit.text, unit.ast)

def sources (d : Draft) : List UnitSnapshot :=
  d.units.map UnitSnapshot.source

def headings (d : Draft) : List Definition :=
  d.definitions.map Definition.heading

/-- New units and definitions without a place of their name keep the property, and of all else that
steps do beside the syntax trees nothing matters to it. -/
structure Framed (P : Draft → Prop) : Prop where
  unit : ∀ path kind text, Keeps P (addUnit path kind text)
  definition : ∀ definition, definition.nameSpan = none → Keeps P (addDefinition definition)
  rest : ∀ {d d' : Draft}, d'.nodes = d.nodes → d'.sources = d.sources →
    d'.headings = d.headings → P d → P d'

/-- The operations that steps are made of keep the property, where the nodes that are added as they
are told are of the given kinds. -/
structure Invariant (kinds : NodeKind → Prop) (P : Draft → Prop) : Prop extends Framed P where
  markup : ∀ path text, Keeps P (markup path text)
  node : ∀ u kind span, kinds kind → Keeps P (addNode u kind span)
  identifier : ∀ u span definition, Keeps P (identifier u span definition)
  declare : ∀ u definition span nameSpan kind, span.encloses nameSpan →
    kind = .declaration ∨ kind = (.classDecl · none) →
    Keeps P (declare u definition span nameSpan kind)
  extend : ∀ u id base, Keeps P (extend u id base)

/-- The moves that the operations are made of keep the property. -/
structure Stable (P : Draft → Prop) : Prop extends Framed P where
  tags : ∀ u document, Keeps P (modifyUnit u fun unit => { unit with markup := some document })
  node : ∀ u kind span, Keeps P (addNode u kind span)
  kind : ∀ id kind, Keeps P (setKind id kind)

variable {α β : Type} {P : Draft → Prop} {d d' : Draft}

theorem trees_eq_map_sources : d.trees = d.sources.map fun unit => (unit.text, unit.ast) := by
  rw [sources, List.map_map]
  rfl

theorem run_bind_eq_ok {x : Build α} {f : α → Build β} {b : β} :
    (x >>= f).run d = .ok (b, d') ↔
      ∃ a middle, x.run d = .ok (a, middle) ∧ (f a).run middle = .ok (b, d') := by
  rw [StateT.run_bind]
  cases x.run d with
  | error e => simp [bind, Except.bind]
  | ok result =>
      obtain ⟨a, middle⟩ := result
      constructor
      · intro hrun
        exact ⟨a, middle, rfl, hrun⟩
      · rintro ⟨_, _, ⟨⟩, hrun⟩
        exact hrun

namespace Keeps

theorem pure (a : α) : Keeps P (Pure.pure a : Build α) := by
  intro d b d' hrun hP
  cases hrun
  exact hP

theorem bind {x : Build α} {f : α → Build β} (hx : Keeps P x) (hf : ∀ a, Keeps P (f a)) :
    Keeps P (x >>= f) := by
  intro d b d' hrun hP
  obtain ⟨a, middle, hfirst, hsecond⟩ := run_bind_eq_ok.mp hrun
  exact hf a middle b d' hsecond (hx d a middle hfirst hP)

theorem map {x : Build α} (f : α → β) (hx : Keeps P x) : Keeps P (f <$> x) := by
  rw [map_eq_pure_bind]
  exact hx.bind fun a => pure (f a)

theorem get : Keeps P (MonadState.get : Build Draft) := by
  intro d a d' hrun hP
  cases hrun
  exact hP

theorem modify {f : Draft → Draft} (h : ∀ d, P d → P (f d)) :
    Keeps P (modify f : Build PUnit) := by
  intro d a d' hrun hP
  cases hrun
  exact h d hP

theorem demand (error : DraftError) (value : Option α) : Keeps P (demand error value) := by
  cases value with
  | none =>
      intro d a d' hrun _
      cases hrun
  | some a => exact .pure a

/-- What follows knows that the value was there. -/
theorem demanding {error : DraftError} {value : Option α} {f : α → Build β}
    (h : ∀ a, value = some a → Keeps P (f a)) : Keeps P (Draft.demand error value >>= f) := by
  cases value with
  | none =>
      intro d b d' hrun _
      cases hrun
  | some a => exact h a rfl

theorem forM {items : List α} {f : α → Build PUnit} (h : ∀ a, Keeps P (f a)) :
    Keeps P (items.forM f) := by
  induction items with
  | nil => exact pure PUnit.unit
  | cons a items ih => exact (h a).bind fun _ => ih

/-! ### Looking things up -/

theorem unitAt (u : UnitId) : Keeps P (unitAt u) :=
  get.bind fun _ => demand _ _

theorem definitionAt (id : DefId) : Keeps P (definitionAt id) :=
  get.bind fun _ => demand _ _

theorem nodeAt (id : NodeId) : Keeps P (nodeAt id) :=
  get.bind fun _ => demand _ _

theorem textOf (u : UnitId) : Keeps P (textOf u) :=
  (unitAt u).bind fun _ => pure _

theorem spanOf (u : UnitId) (needle : String) (nth : Nat) : Keeps P (spanOf u needle nth) :=
  (textOf u).bind fun _ => demand _ _

theorem qualify (owner : Option DefId) (name : String) : Keeps P (qualify owner name) := by
  cases owner with
  | none => exact pure _
  | some owner => exact (definitionAt owner).bind fun _ => pure _

theorem body (u : UnitId) (owner : DefId) : Keeps P (body u owner) := by
  refine get.bind fun d => ?_
  split
  · exact (nodeAt _).bind fun _ => pure _
  · exact (textOf u).bind fun _ => pure _

theorem tag (u : UnitId) (name : String) (nth : Nat) : Keeps P (tag u name nth) :=
  (unitAt u).bind fun _ => demand _ _

end Keeps

namespace Framed

variable (h : Framed P)
include h

/-! ### Moves beside the trees -/

/-- A change that touches neither nodes nor units nor definitions. -/
theorem beside {f : Draft → Draft} (hnodes : ∀ d, (f d).nodes = d.nodes)
    (hunits : ∀ d, (f d).units = d.units) (hdefinitions : ∀ d, (f d).definitions = d.definitions) :
    Keeps P (modify f : Build PUnit) := by
  apply Keeps.modify
  intro d hP
  have hsources : (f d).sources = d.sources := congrArg (List.map _) (hunits d)
  have hheadings : (f d).headings = d.headings := congrArg (List.map _) (hdefinitions d)
  exact h.rest (hnodes d) hsources hheadings hP

theorem modifyUnit (u : UnitId) {f : UnitSnapshot → UnitSnapshot}
    (hf : ∀ unit, (f unit).source = unit.source) : Keeps P (modifyUnit u f) := by
  refine (Keeps.unitAt u).bind fun _ => Keeps.modify fun d hP => ?_
  have hsources : (d.units.modify u.index f).map UnitSnapshot.source = d.sources :=
    map_modify_of_forall hf
  exact h.rest (d := d) rfl hsources rfl hP

theorem modifyDefinition (id : DefId) {f : Definition → Definition}
    (hf : ∀ definition, (f definition).heading = definition.heading) :
    Keeps P (modifyDefinition id f) := by
  refine (Keeps.definitionAt id).bind fun _ => Keeps.modify fun d hP => ?_
  have hheadings : (d.definitions.modify id.index f).map Definition.heading = d.headings :=
    map_modify_of_forall hf
  exact h.rest (d := d) rfl rfl hheadings hP

theorem addToScope (u : UnitId) (id : DefId) : Keeps P (addToScope u id) := by
  refine h.modifyUnit u fun unit => ?_
  split <;> rfl

theorem failScope (u : UnitId) (reason : String) : Keeps P (failScope u reason) :=
  h.modifyUnit u fun _ => rfl

theorem splice (path parent : Path) (cues : List OffsetCue) : Keeps P (splice path parent cues) :=
  h.beside (fun _ => rfl) (fun _ => rfl) fun _ => rfl

theorem bindTag (u : UnitId) (t : TagId) (attr : Option Nat) (id : DefId) :
    Keeps P (bindTag u t attr id) :=
  h.beside (fun _ => rfl) (fun _ => rfl) fun _ => rfl

theorem docComment (u : UnitId) (nth : Nat) : Keeps P (docComment u nth) :=
  (Keeps.textOf u).bind fun _ => (Keeps.demand _ _).bind fun _ =>
    h.modifyUnit u fun _ => rfl

theorem setVisibility (id : DefId) (visibility : Visibility) :
    Keeps P (setVisibility id visibility) :=
  h.modifyDefinition id fun _ => rfl

theorem override (function overridden : DefId) : Keeps P (override function overridden) :=
  Keeps.bind (h.modifyDefinition function fun _ => rfl) fun _ =>
    h.beside (fun _ => rfl) (fun _ => rfl) fun _ => rfl

theorem pushMember (owner member : DefId) : Keeps P (pushMember owner member) :=
  (Keeps.definitionAt owner).bind fun _ => (Keeps.demand _ _).bind fun _ =>
    h.modifyDefinition owner fun _ => rfl

theorem place (u : UnitId) (owner : Option DefId) (id : DefId) : Keeps P (place u owner id) := by
  cases owner with
  | none => exact h.addToScope u id
  | some owner => exact h.pushMember owner id

theorem markupClass (u : UnitId) (owner : Option DefId) (name : String) :
    Keeps P (markupClass u owner name) := by
  refine (Keeps.qualify owner name).bind fun _ => (Keeps.unitAt u).bind fun _ => ?_
  refine (h.definition _ rfl).bind fun id => (h.place u owner id).bind fun _ => ?_
  exact Keeps.bind (h.modifyUnit u fun _ => rfl) fun _ => Keeps.pure id

theorem libraryMember (owner : DefId) (name : String) : Keeps P (libraryMember owner name) :=
  (Keeps.definitionAt owner).bind fun _ => (h.definition _ rfl).bind fun id =>
    (h.pushMember owner id).bind fun _ => Keeps.pure id

theorem libraryClass (library : Path) (packageName name : String) :
    Keeps P (libraryClass library packageName name) := by
  refine Keeps.get.bind fun d => ?_
  extract_lets inPackage inUnit
  have hclass (owner : DefId) : Keeps P (inPackage owner) :=
    (Keeps.qualify _ name).bind fun _ => (h.definition _ rfl).bind fun id =>
      (h.pushMember owner id).bind fun _ => Keeps.pure id
  have hpackage (u : UnitId) : Keeps P (inUnit u) := by
    refine Keeps.get.bind fun _ => (Keeps.unitAt u).bind fun _ => ?_
    split
    · exact (Keeps.pure _).bind hclass
    · exact (h.definition _ rfl).bind fun id => (h.addToScope u id).bind fun _ =>
        (Keeps.pure id).bind hclass
  split
  · exact (Keeps.pure _).bind hpackage
  · exact (h.unit library .compiled none).bind hpackage

end Framed

/-! ### Declarations that a keyword has been found of -/

section Found

variable {text : List Char} {within keyword : Span} {word name : String}
  (h : (Text.wordOccurrences text (word ++ name).toList within).head? = some keyword)
include h

theorem mem_of_found :
    keyword ∈ Text.wordOccurrences text (word.toList ++ name.toList) within := by
  rw [← String.toList_append]
  exact List.mem_of_head? h

/-- The name is what the text has at its place. -/
theorem slice?_nameWithin : Text.slice? text (nameWithin keyword name) = some name.toList :=
  Text.slice?_of_mem_wordOccurrences (mem_of_found h)

theorem start_le_nameWithin : keyword.start ≤ (nameWithin keyword name).start := by
  have hstop := (Text.exists_cut_of_mem_wordOccurrences (mem_of_found h)).1
  rw [Text.byteLength_append] at hstop
  show keyword.start ≤ keyword.stop - Text.byteLength name.toList
  omega

/-- The block of the declaration ends behind its name. -/
theorem block_encloses_name :
    (⟨keyword.start, Text.blockEnd text (nameWithin keyword name).stop⟩ : Span).encloses
      (nameWithin keyword name) :=
  Span.encloses_iff.mpr ⟨start_le_nameWithin h, Text.le_blockEnd _ _⟩

/-- The statement of the declaration ends behind its name. -/
theorem statement_encloses_name :
    (⟨keyword.start, statementEnd text (nameWithin keyword name).stop⟩ : Span).encloses
      (nameWithin keyword name) := by
  refine Span.encloses_iff.mpr ⟨start_le_nameWithin h, ?_⟩
  have hend : keyword.stop ≤ Text.byteLength text :=
    Text.stop_le_of_mem_wordOccurrences (mem_of_found h)
  show keyword.stop ≤ statementEnd text keyword.stop
  rw [statementEnd]
  split
  · omega
  · exact hend

end Found

namespace Invariant

variable {kinds : NodeKind → Prop} (h : Invariant kinds P)
include h

theorem reference (u : UnitId) (name : String) (nth : Nat) (definition : Option DefId) :
    Keeps P (reference u name nth definition) :=
  (Keeps.spanOf u name nth).bind fun span => h.identifier u span definition

section Declaring

variable (hnamed : ∀ definition, Keeps P (addDefinition definition))
include hnamed

theorem package (u : UnitId) (name : String) : Keeps P (package u name) := by
  refine (Keeps.textOf u).bind fun _ => (Keeps.unitAt u).bind fun _ => ?_
  exact (hnamed _).bind fun id => (h.addToScope u id).bind fun _ => Keeps.pure id

theorem idField (u : UnitId) (owner : DefId) (name : String) : Keeps P (idField u owner name) := by
  refine (Keeps.unitAt u).bind fun _ => (Keeps.demand _ _).bind fun _ => ?_
  refine (Keeps.qualify _ name).bind fun _ => (Keeps.unitAt u).bind fun _ => ?_
  exact (hnamed _).bind fun id => (h.pushMember owner id).bind fun _ => Keeps.pure id

theorem declareClass (u : UnitId) (owner : Option DefId) (name : String) :
    Keeps P (declareClass u owner name) := by
  refine (Keeps.textOf u).bind fun _ => Keeps.demanding fun keyword hkeyword => ?_
  refine (Keeps.qualify owner name).bind fun _ => (Keeps.unitAt u).bind fun _ => ?_
  refine (hnamed _).bind fun id => (h.place u owner id).bind fun _ => ?_
  exact (h.declare u id _ _ _ (block_encloses_name hkeyword) (.inr rfl)).bind fun _ => Keeps.pure id

theorem declareWithin {missing : DraftError} {word name : String}
    {kind : List Char → Span → DefinitionKind} {stop : List Char → Nat → Nat}
    (hstop : ∀ {text : List Char} {within keyword : Span},
      (Text.wordOccurrences text (word ++ name).toList within).head? = some keyword →
      (⟨keyword.start, stop text (nameWithin keyword name).stop⟩ : Span).encloses
        (nameWithin keyword name)) (u : UnitId) (owner : DefId) :
    Keeps P (declareWithin missing word kind stop u owner name) := by
  refine (Keeps.textOf u).bind fun _ => (Keeps.body u owner).bind fun _ => ?_
  refine Keeps.demanding fun keyword hkeyword => (Keeps.qualify _ name).bind fun _ => ?_
  refine (Keeps.unitAt u).bind fun _ => (hnamed _).bind fun id => ?_
  exact (h.declare u id _ _ _ (hstop hkeyword) (.inl rfl)).bind fun _ => Keeps.pure id

theorem declareFunction (u : UnitId) (owner : DefId) (name : String)
    (classification : FunctionClass) : Keeps P (declareFunction u owner name classification) :=
  h.declareWithin hnamed block_encloses_name u owner

theorem method (u : UnitId) (owner : DefId) (name : String) : Keeps P (method u owner name) :=
  (h.declareFunction hnamed u owner name .classMember).bind fun id =>
    (h.pushMember owner id).bind fun _ => Keeps.pure id

theorem constructor (u : UnitId) (owner : DefId) : Keeps P (constructor u owner) :=
  (Keeps.definitionAt owner).bind fun _ =>
    (h.declareFunction hnamed u owner _ .classMember).bind fun id =>
      Keeps.bind (h.modifyDefinition owner fun _ => rfl) fun _ => Keeps.pure id

theorem declareVariable (u : UnitId) (owner : DefId) (name : String)
    (classification : VariableClass) : Keeps P (declareVariable u owner name classification) :=
  h.declareWithin hnamed statement_encloses_name u owner

theorem field (u : UnitId) (owner : DefId) (name : String) : Keeps P (field u owner name) :=
  (h.declareVariable hnamed u owner name .classMember).bind fun id =>
    (h.pushMember owner id).bind fun _ => Keeps.pure id

end Declaring

/-- A step keeps the property. If it is one that looks for a name, this takes that definitions with
a place of their name keep it too. -/
theorem perform (step : Step) (hkinds : ∀ kind ∈ step.givenKind?, kinds kind)
    (hnamed : step.declaresIn? ≠ none → ∀ definition, Keeps P (addDefinition definition)) :
    Keeps P (perform step) := by
  cases step with
  | script path text => exact (h.unit path .script (some text)).map _
  | markup path text => exact (h.markup path text).map _
  | failScope u reason => exact (h.failScope u reason).bind fun _ => Keeps.pure _
  | splice path parent cues => exact (h.splice path parent cues).bind fun _ => Keeps.pure _
  | spanOf u needle nth => exact (Keeps.spanOf u needle nth).map _
  | node u kind span => exact (h.node u kind span (hkinds kind rfl)).map _
  | nodeAt u kind needle nth =>
      exact (Keeps.spanOf u needle nth).bind fun span =>
        (h.node u kind span (hkinds kind rfl)).map _
  | reference u name nth definition => exact (h.reference u name nth definition).map _
  | setVisibility id visibility => exact (h.setVisibility id visibility).bind fun _ => Keeps.pure _
  | package u name => exact (h.package (hnamed (Option.some_ne_none u)) u name).map _
  | classDecl u owner name =>
      exact (h.declareClass (hnamed (Option.some_ne_none u)) u owner name).map _
  | markupClass u owner name => exact (h.markupClass u owner name).map _
  | extend u id base => exact (h.extend u id base).bind fun _ => Keeps.pure _
  | method u owner name => exact (h.method (hnamed (Option.some_ne_none u)) u owner name).map _
  | localFunction u owner name =>
      exact (h.declareFunction (hnamed (Option.some_ne_none u)) u owner name .localScope).map _
  | constructor u owner => exact (h.constructor (hnamed (Option.some_ne_none u)) u owner).map _
  | field u owner name => exact (h.field (hnamed (Option.some_ne_none u)) u owner name).map _
  | localVariable u owner name =>
      exact (h.declareVariable (hnamed (Option.some_ne_none u)) u owner name .localScope).map _
  | idField u owner name => exact (h.idField (hnamed (Option.some_ne_none u)) u owner name).map _
  | libraryClass library packageName name => exact (h.libraryClass library packageName name).map _
  | libraryMember owner name => exact (h.libraryMember owner name).map _
  | override function overridden =>
      exact (h.override function overridden).bind fun _ => Keeps.pure _
  | tag u name nth => exact (Keeps.tag u name nth).map _
  | bindTag u t attr definition => exact (h.bindTag u t attr definition).bind fun _ => Keeps.pure _
  | docComment u nth => exact (h.docComment u nth).bind fun _ => Keeps.pure _

/-- Steps that all succeed keep the property. -/
theorem run (hnamed : ∀ definition, Keeps P (addDefinition definition)) (steps : List Step)
    (hkinds : ∀ step ∈ steps, ∀ kind ∈ step.givenKind?, kinds kind)
    (hrun : (run d steps).2 = .ok d') (hP : P d) : P d' := by
  induction steps generalizing d with
  | nil =>
      cases hrun
      exact hP
  | cons step rest ih =>
      rw [Draft.run] at hrun
      obtain ⟨hstepKinds, hrestKinds⟩ := List.forall_mem_cons.mp hkinds
      split at hrun
      · cases hrun
      · rename_i found grown hstep
        refine ih hrestKinds hrun ?_
        exact h.perform step hstepKinds (fun _ => hnamed) d found grown hstep hP

end Invariant

namespace Stable

variable (h : Stable P)
include h

/-! ### Moves in the trees -/

theorem markup (path : Path) (text : String) : Keeps P (markup path text) := by
  refine (h.unit path .markup (some text)).bind fun id => ?_
  dsimp only
  refine Keeps.bind (h.tags id _) fun _ => ?_
  refine Keeps.bind (Keeps.forM fun body => ?_) fun _ => Keeps.pure id
  exact (h.node id .styleBlock body).map _

theorem identifier (u : UnitId) (span : Span) (definition : Option DefId) :
    Keeps P (identifier u span definition) := by
  refine Keeps.get.bind fun d => ?_
  extract_lets bound
  have hbound (id : NodeId) : Keeps P (bound id) := by
    dsimp only [bound]
    split
    · exact Keeps.bind (h.beside (fun _ => rfl) (fun _ => rfl) fun _ => rfl) fun _ => Keeps.pure id
    · exact Keeps.pure id
  split
  · exact (Keeps.pure _).bind hbound
  · exact (Keeps.textOf u).bind fun _ => (Keeps.demand _ _).bind fun _ =>
      (h.node u _ span).bind hbound

theorem declare (u : UnitId) (definition : DefId) (span nameSpan : Span)
    (kind : NodeId → NodeKind) : Keeps P (declare u definition span nameSpan kind) := by
  refine (h.node u _ span).bind fun declaration => ?_
  refine (h.identifier u nameSpan (some definition)).bind fun name => ?_
  exact (h.kind declaration (kind name)).bind fun _ =>
    h.beside (fun _ => rfl) (fun _ => rfl) fun _ => rfl

theorem extend (u : UnitId) (id base : DefId) : Keeps P (extend u id base) := by
  refine Keeps.get.bind fun _ => (Keeps.demand _ _).bind fun declaration => ?_
  refine (Keeps.definitionAt base).bind fun _ => (Keeps.textOf u).bind fun _ => ?_
  refine (Keeps.nodeAt declaration).bind fun _ => (Keeps.demand _ _).bind fun _ => ?_
  refine (h.identifier u _ (some base)).bind fun node => ?_
  exact (Keeps.nodeAt declaration).bind fun _ => h.kind declaration _

theorem invariant : Invariant (fun _ => True) P where
  toFramed := h.toFramed
  markup := h.markup
  node u kind span _ := h.node u kind span
  identifier := h.identifier
  declare u definition span nameSpan kind _ _ := h.declare u definition span nameSpan kind
  extend := h.extend

end Stable

end Draft

end SymbolNav
