import SymbolNav.Proofs.Draft.Growth
import SymbolNav.Proofs.Markup.Safety
import SymbolNav.Proofs.Markup.Spans

/-!
# Adding a markup unit is safe

A markup unit is scanned, and each style tag that has an end tag gets a node for its body. Here the
same is done with checks: the scanner by offsets takes the place of the scanner, the body of a style
tag has to end where its end tag leaves room, and every node that the search for a place looks at
has to be there. On a draft that steps have built the checks all hold and the search comes to an
end, so the step succeeds with the same draft.
-/

namespace SymbolNav.Draft

/-! ### The checked step -/

/-- Step back from an offset that has to be as great. -/
def back? (offset length : Nat) : Option Nat :=
  if length ≤ offset then some (offset - length) else none

/-- The bodies of style tags that have an end tag. -/
def styleBodies? (m : MarkupDocument) : Option (List Span) :=
  (m.tags.filterMap fun tag =>
    if tag.role = .style then
      tag.closeNameSpan.map fun close => (tag.openSpan.stop, close.start)
    else none).mapM fun ends => (back? ends.2 2).map (Span.mk ends.1)

/-- The children of a node, which have to be there as the node has. -/
def children? (d : Draft) (id : NodeId) : Option (List NodeId) := do
  let node ← d.nodes[id.index]?
  if node.2.children.all (·.index < d.nodes.length) then some node.2.children else none

/-- The innermost node below a node that encloses the span. -/
def innermost? (d : Draft) (span : Span) : (rounds : Nat) → NodeId → Option NodeId
  | 0, _ => none
  | rounds + 1, id => do
    let children ← d.children? id
    match children.find? (d.spanIs (·.encloses span)) with
    | none => some id
    | some child => d.innermost? span rounds child

/-- Add a node to the tree of a unit. -/
def addNode? (d : Draft) (rounds : Nat) (u : UnitId) (kind : NodeKind) (span : Span) :
    Option Draft := do
  let unit ← d.units[u.index]?
  let root ← unit.ast
  let parent ← d.innermost? span rounds root
  let _ ← d.children? parent
  some (d.insertBelow u parent kind span)

/-- Add a markup unit. -/
def markup? (d : Draft) (rounds : Nat) (path : Path) (text : String) : Option Draft := do
  let (id, d) ← ((addUnit path .markup (some text)).run d).toOption
  let document ← Markup.Cursor.document? rounds path text.toList
  let bodies ← styleBodies? document
  let (_, d) ← ((modifyUnit id fun u => { u with markup := some document }).run d).toOption
  bodies.foldlM (fun d body => d.addNode? rounds id .styleBlock body) d

variable {d d' : Draft} {u : UnitId} {id root : NodeId} {span : Span}

/-! ### Style bodies -/

/-- Where each end tag leaves room, the bodies are those of the step. -/
theorem styleBodies?_eq {m : MarkupDocument}
    (h : ∀ tag ∈ m.tags, ∀ close, tag.closeNameSpan = some close → 2 ≤ close.start) :
    styleBodies? m = some (styleBodies m) := by
  have hbodies : styleBodies m = (m.tags.filterMap fun tag =>
      if tag.role = .style then
        tag.closeNameSpan.map fun close => (tag.openSpan.stop, close.start)
      else none).map fun ends => ⟨ends.1, ends.2 - 2⟩ := by
    rw [List.map_filterMap, styleBodies]
    congr 1
    funext tag
    split
    · rw [Option.map_map]
      rfl
    · rfl
  rw [hbodies]
  refine mapM_of_forall fun ends hends => ?_
  obtain ⟨tag, htag, hsome⟩ := List.mem_filterMap.mp hends
  split at hsome
  · obtain ⟨close, hclose, rfl⟩ := Option.map_eq_some_iff.mp hsome
    rw [back?, if_pos (h tag htag close hclose)]
    rfl
  · cases hsome

/-! ### A new node -/

theorem children?_eq {links : Links} (h : Forest d.root? d.links?)
    (hlinks : d.links? id = some links) : d.children? id = some links.children := by
  have hthere : ∀ child ∈ links.children, child.index < d.nodes.length := by
    intro child hchild
    obtain ⟨below, hbelow, -⟩ := h.child hlinks hchild
    obtain ⟨n, hn, -⟩ := links?_eq_some.mp hbelow
    exact (List.getElem?_eq_some_iff.mp hn).1
  obtain ⟨n, hn, rfl⟩ := links?_eq_some.mp hlinks
  rw [children?, hn]
  exact if_pos (List.all_eq_true.mpr fun child hchild => decide_eq_true (hthere child hchild))

/-- The search goes the way that leads to the place of the new node, and finds all nodes there. -/
theorem innermost?_of_leads {moves rounds : Nat} {stop : NodeId} (h : Forest d.root? d.links?)
    (hadmits : d.Admits u span id) (hleads : Leads (d.enclosingChild? span) moves id stop)
    (hrounds : moves < rounds) : d.innermost? span rounds id = some stop := by
  induction hleads generalizing rounds with
  | stop hnone =>
      obtain ⟨rounds, rfl⟩ : ∃ n, rounds = n + 1 := ⟨rounds - 1, by omega⟩
      obtain ⟨links, hlinks, -⟩ := hadmits
      rw [enclosingChild?_eq hlinks] at hnone
      simp only [innermost?, children?_eq h hlinks, hnone, Option.bind_eq_bind, Option.bind_some]
  | move hmove _ ih =>
      obtain ⟨rounds, rfl⟩ : ∃ n, rounds = n + 1 := ⟨rounds - 1, by omega⟩
      have hnext := ih (hadmits.enclosingChild? h hmove) (show _ < rounds by omega)
      obtain ⟨links, hlinks, -⟩ := hadmits
      rw [enclosingChild?_eq hlinks] at hmove
      simp only [innermost?, children?_eq h hlinks, hmove, Option.bind_eq_bind, Option.bind_some,
        hnext]

/-- The draft with a new node in the tree below a root. -/
def withNode (d : Draft) (u : UnitId) (root : NodeId) (kind : NodeKind) (span : Span) : Draft :=
  d.insertBelow u (d.enclosingNode span d.nodes.length root) kind span

theorem run_addNode_of_root (hroot : d.root? u = some root) (kind : NodeKind) (span : Span) :
    (addNode u kind span).run d = .ok (⟨d.nodes.length⟩, d.withNode u root kind span) := by
  rw [root?_eq_bind] at hroot
  obtain ⟨unit, hunit, hast⟩ := Option.bind_eq_some_iff.mp hroot
  refine run_bind_eq_ok.mpr ⟨unit, d, run_unitAt_of_eq_some hunit, ?_⟩
  rw [hast]
  exact run_bind_eq_ok.mpr ⟨root, d, rfl, rfl⟩

/-- In a forest the checks for a new node hold, and the search for its place ends. -/
theorem addNode?_eq (h : d.IsForest) (hroot : d.root? u = some root) (kind : NodeKind)
    (span : Span) : ∃ bound, ∀ rounds, bound ≤ rounds →
    d.addNode? rounds u kind span = some (d.withNode u root kind span) := by
  obtain ⟨moves, hleads⟩ := leads_enclosingNode h.forest span root
  obtain ⟨top, htop, hunit, hparent⟩ := h.forest.root hroot
  have hadmits : d.Admits u span root := ⟨top, htop, hunit, fun hsome => absurd hparent hsome⟩
  obtain ⟨above, habove, -⟩ := hadmits.leads h.forest hleads
  rw [root?_eq_bind] at hroot
  obtain ⟨unit, hfound, hast⟩ := Option.bind_eq_some_iff.mp hroot
  refine ⟨moves + 1, ?_⟩
  intro rounds hrounds
  have hsearch := innermost?_of_leads h.forest hadmits hleads hrounds
  simp only [addNode?, hfound, hast, hsearch, children?_eq h.forest habove, Option.bind_eq_bind,
    Option.bind_some]
  rfl

/-- Bodies get their nodes one after the other. -/
theorem exists_run_bodies (h : d.IsForest) (hroot : d.root? u = some root) (bodies : List Span) :
    ∃ bound d',
      (bodies.forM fun body => discard (addNode u .styleBlock body)).run d = .ok ((), d') ∧
      d'.units = d.units ∧ ∀ rounds, bound ≤ rounds →
        bodies.foldlM (fun d body => d.addNode? rounds u .styleBlock body) d = some d' := by
  induction bodies generalizing d with
  | nil => exact ⟨0, d, rfl, rfl, fun _ _ => rfl⟩
  | cons body bodies ih =>
      have hadd := run_addNode_of_root hroot .styleBlock body
      obtain ⟨bound, hchecked⟩ := addNode?_eq h hroot .styleBlock body
      obtain ⟨more, d', hrun, hunits, hmore⟩ :=
        ih (stable_isForest.node u .styleBlock body d _ _ hadd h) hroot
      refine ⟨max bound more, d', ?_, hunits, ?_⟩
      · refine run_bind_eq_ok.mpr ⟨(), _, ?_, hrun⟩
        show ((fun _ => ()) <$> addNode u .styleBlock body).run d = _
        rw [StateT.run_map, hadd]
        rfl
      · intro rounds hrounds
        rw [List.foldlM_cons, hchecked rounds (by omega)]
        exact hmore rounds (by omega)

/-! ### The step -/

theorem styleBodies?_document (path : Path) (text : String) :
    styleBodies? (Markup.document path text) = some (styleBodies (Markup.document path text)) := by
  apply styleBodies?_eq
  intro tag htag close hclose
  have hroom := (Markup.faithful_of_mem_document htag).close close hclose
  omega

theorem run_addUnit (d : Draft) (path : Path) (kind : UnitKind) (text : Option String) :
    ∃ unit d', (addUnit path kind text).run d = .ok (⟨d.units.length⟩, d') ∧
      d'.units = d.units ++ [unit] ∧ unit.ast = text.map fun _ => ⟨d.nodes.length⟩ := by
  refine ⟨_, _, rfl, rfl, ?_⟩
  exact Option.map_map ..

/-- A unit is there once it has been added, and can be given its document. -/
theorem exists_run_addUnit (h : d.IsForest) (path : Path) (text : String)
    (document : MarkupDocument) :
    ∃ unit added scanned, (addUnit path .markup (some text)).run d = .ok (⟨d.units.length⟩, added) ∧
      (modifyUnit ⟨d.units.length⟩ fun u => { u with markup := some document }).run added =
        .ok ((), scanned) ∧
      scanned.IsForest ∧ scanned.root? ⟨d.units.length⟩ = some ⟨d.nodes.length⟩ ∧
      scanned.units = d.units ++ [unit] ∧ unit.markup = some document := by
  obtain ⟨unit, added, hadd, hunits, hast⟩ := run_addUnit d path .markup (some text)
  have hunit : added.units[(UnitId.mk d.units.length).index]? = some unit := by
    rw [hunits]
    exact List.getElem?_concat_length
  have hmodify := run_modifyUnit hunit fun u => { u with markup := some document }
  have hforest := stable_isForest.unit path .markup (some text) d _ added hadd h
  have hunits' : added.units.modify d.units.length (fun u => { u with markup := some document }) =
      d.units ++ [{ unit with markup := some document }] := by
    rw [hunits, modify_concat]
  refine ⟨{ unit with markup := some document }, added, _, hadd, hmodify, ?_, ?_, hunits', rfl⟩
  · exact stable_isForest.tags _ document added _ _ hmodify hforest
  · rw [root?_eq_bind]
    simp only [hunits', List.getElem?_concat_length, Option.bind_some]
    exact hast

/-- A markup unit can be added to every forest, with its document and a node for each style tag. -/
theorem exists_run_markup (h : d.IsForest) (path : Path) (text : String) :
    ∃ bound d', (markup path text).run d = .ok (⟨d.units.length⟩, d') ∧
      (∃ unit, d'.units = d.units ++ [unit] ∧ unit.markup = some (Markup.document path text)) ∧
      ∀ rounds, bound ≤ rounds → d.markup? rounds path text = some d' := by
  obtain ⟨unit, added, scanned, hadd, hmodify, hforest, hroot, hunits, hdocument⟩ :=
    exists_run_addUnit h path text (Markup.document path text)
  obtain ⟨bound, d', hbodies, hsame, hchecked⟩ :=
    exists_run_bodies hforest hroot (styleBodies (Markup.document path text))
  refine ⟨max (text.toList.length + 1) bound, d', ?_, ⟨unit, hsame.trans hunits, hdocument⟩, ?_⟩
  · refine run_bind_eq_ok.mpr ⟨_, added, hadd, run_bind_eq_ok.mpr ⟨(), scanned, hmodify, ?_⟩⟩
    exact run_bind_eq_ok.mpr ⟨(), d', hbodies, rfl⟩
  · intro rounds hrounds
    rw [markup?, hadd]
    simp only [Except.toOption, Markup.document?_eq path text (show _ < rounds by omega),
      styleBodies?_document, hmodify, Option.bind_eq_bind, Option.bind_some]
    exact hchecked rounds (by omega)

/-- The scanner never fails and always ends, whatever the text is, and neither does the step that
adds a markup unit to a draft that steps have built. All tags that they find are faithful to the
text. -/
theorem markup_is_safe_and_faithful {steps : List Step} (h : build steps = .ok d) (path : Path)
    (text : String) :
    (∀ rounds, text.toList.length < rounds →
      Markup.Cursor.document? rounds path text.toList = some (Markup.document path text)) ∧
    (∃ bound d', (markup path text).run d = .ok (⟨d.units.length⟩, d') ∧
      (∃ unit, d'.units = d.units ++ [unit] ∧ unit.markup = some (Markup.document path text)) ∧
      ∀ rounds, bound ≤ rounds → d.markup? rounds path text = some d') ∧
    ∀ tag ∈ (Markup.document path text).tags, Markup.Faithful text.toList tag := by
  refine ⟨?_, exists_run_markup (isForest_of_build h) path text, ?_⟩
  · intro rounds hrounds
    exact Markup.document?_eq path text hrounds
  · intro tag htag
    exact Markup.faithful_of_mem_document htag

namespace MarkupSample

/-! Names outside of ASCII, a bracket in a binding, stray signs between attributes, the body of a
style tag, character data in a script, and a value that does not end. -/

def path : Path := ⟨"/p/App.mxml"⟩

def text : String :=
  "<g:App é='\x7bж\x7bb\x7d' / = q=\"\x7d\"><g:Style>ü</g:Style>" ++
    "<Script><![CDATA[ö]]></Script><z €='\x7b<"

def steps : List Step :=
  [.script ⟨"/p/A.as"⟩ "class A \x7b\x7d", .classDecl ⟨0⟩ none "A"]

def app : MarkupTag :=
  { name := ⟨some "g", "App"⟩, role := .component, span := ⟨0, 29⟩, openSpan := ⟨0, 29⟩
    nameSpan := ⟨1, 6⟩, closeNameSpan := none
    attributes :=
      [⟨"é", ⟨7, 9⟩, some ⟨11, 17⟩, "\x7bж\x7bb\x7d"⟩, ⟨"q", ⟨23, 24⟩, some ⟨26, 27⟩, "\x7d"⟩]
    scriptRegions := [⟨12, 16⟩], parent := none, children := [⟨1⟩, ⟨2⟩, ⟨3⟩] }

def style : MarkupTag :=
  { name := ⟨some "g", "Style"⟩, role := .style, span := ⟨29, 50⟩, openSpan := ⟨29, 38⟩
    nameSpan := ⟨30, 37⟩, closeNameSpan := some ⟨42, 49⟩, attributes := [], scriptRegions := []
    parent := some ⟨0⟩, children := [] }

def script : MarkupTag :=
  { name := ⟨none, "Script"⟩, role := .script, span := ⟨50, 81⟩, openSpan := ⟨50, 58⟩
    nameSpan := ⟨51, 57⟩, closeNameSpan := some ⟨74, 80⟩, attributes := []
    scriptRegions := [⟨67, 69⟩], parent := some ⟨0⟩, children := [] }

def last : MarkupTag :=
  { name := ⟨none, "z"⟩, role := .component, span := ⟨81, 91⟩, openSpan := ⟨81, 91⟩
    nameSpan := ⟨82, 83⟩, closeNameSpan := none
    attributes := [⟨"€", ⟨84, 87⟩, some ⟨89, 91⟩, "\x7b<"⟩], scriptRegions := []
    parent := some ⟨0⟩, children := [] }

theorem tags_eq : (Markup.document path text).tags = [app, style, script, last] := by
  decide +kernel

theorem exists_draft : ∃ d, build steps = .ok d ∧ d.units.length = 1 := by
  have hunits : (build steps).toOption.map (·.units.length) = some 1 := by decide +kernel
  cases hbuild : build steps with
  | error e =>
      rw [hbuild] at hunits
      cases hunits
  | ok d =>
      rw [hbuild] at hunits
      exact ⟨d, rfl, Option.some.inj hunits⟩

end MarkupSample

theorem markup_is_safe_and_faithful_of_sample :
    ∃ d d' bound, build MarkupSample.steps = .ok d ∧
      (markup MarkupSample.path MarkupSample.text).run d = .ok (⟨1⟩, d') ∧
      (∀ rounds, bound ≤ rounds →
        d.markup? rounds MarkupSample.path MarkupSample.text = some d') ∧
      ∀ tag ∈ [MarkupSample.app, MarkupSample.style, MarkupSample.script, MarkupSample.last],
        Markup.Faithful MarkupSample.text.toList tag := by
  obtain ⟨d, hbuild, hunits⟩ := MarkupSample.exists_draft
  obtain ⟨-, ⟨bound, d', hrun, -, hchecked⟩, hfaithful⟩ :=
    markup_is_safe_and_faithful hbuild MarkupSample.path MarkupSample.text
  rw [hunits] at hrun
  rw [MarkupSample.tags_eq] at hfaithful
  exact ⟨d, d', bound, hbuild, hrun, hchecked, hfaithful⟩

end SymbolNav.Draft
