import SymbolNav.Proofs.Draft.Markup

/-!
# Names in the syntax trees

What a draft records of names is what stands in the texts of its units. `Labelled` says so of the
nodes, each with its unit, its kind and its span: an identifier has the name that the text has at
its span, a unit has one identifier at most at a span, a declaration names an identifier of its unit
that lies inside it, and what a class extends is an identifier too. The tags of a markup unit are
faithful to its text.

A declaration is added before the identifier of its name, with a placeholder for its handle, and
told its name afterwards. In between the invariant holds of all declarations but this one, which is
pending. Links between nodes do not matter, so nodes are looked at without them.
-/

namespace SymbolNav

/-- The kind of a node that neither is a name nor has one. -/
def NodeKind.isNameless : NodeKind → Bool
  | .identifier _ => false
  | .classDecl _ _ => false
  | .declaration _ => false
  | _ => true

/-- A node without its links. -/
def SyntaxNode.unlinked (n : SyntaxNode) : SyntaxNode :=
  { n with parent := none, children := [] }

namespace Draft

/-- The nodes with what they are and where they stand. -/
def labels (d : Draft) : List (UnitId × SyntaxNode) :=
  d.nodes.map fun n => (n.1, n.2.unlinked)

/-- The text of the unit has the name at the span. -/
def ReadsAt (sources : List UnitSnapshot) (u : UnitId) (span : Span) (name : String) : Prop :=
  ∃ unit, sources[u.index]? = some unit ∧
    Text.slice? (unit.text.getD "").toList span = some name.toList

/-- The handle is that of an identifier of the unit that lies inside the span. -/
def IsNameIn (labels : List (UnitId × SyntaxNode)) (u : UnitId) (span : Span) (id : NodeId) :
    Prop :=
  ∃ n, labels[id.index]? = some (u, n) ∧ n.isIdentifier ∧ span.encloses n.span

/-- The handle is that of an identifier of any unit. -/
def IsName (labels : List (UnitId × SyntaxNode)) (id : NodeId) : Prop :=
  ∃ u n, labels[id.index]? = some (u, n) ∧ n.isIdentifier

/-- The nodes and tags say of names what the texts say; the pending declaration is left out. -/
structure Labelled (sources : List UnitSnapshot) (labels : List (UnitId × SyntaxNode))
    (pending : Option NodeId) : Prop where
  identifier : ∀ {i : Nat} {u : UnitId} {n : SyntaxNode} {name : String},
    labels[i]? = some (u, n) → n.identifier? = some name → ReadsAt sources u n.span name
  once : ∀ {i j : Nat} {u : UnitId} {m n : SyntaxNode}, labels[i]? = some (u, m) →
    labels[j]? = some (u, n) → m.isIdentifier → n.isIdentifier → m.span = n.span → i = j
  declaration : ∀ {i : Nat} {u : UnitId} {n : SyntaxNode} {name : NodeId}, some ⟨i⟩ ≠ pending →
    labels[i]? = some (u, n) → n.declaredName? = some name → IsNameIn labels u n.span name
  base : ∀ {i : Nat} {u : UnitId} {n : SyntaxNode} {name base : NodeId}, labels[i]? = some (u, n) →
    n.classParts? = some (name, some base) → IsName labels base
  tags : ∀ {unit : UnitSnapshot} {document : MarkupDocument} {tag : MarkupTag}, unit ∈ sources →
    unit.markup = some document → tag ∈ document.tags →
    ∃ text, unit.text = some text ∧ Markup.Faithful text.toList tag

/-- The invariant of a draft between two steps, or while a declaration is pending. -/
def Named (pending : Option NodeId) (d : Draft) : Prop :=
  Labelled d.sources d.labels pending

variable {sources : List UnitSnapshot} {labels : List (UnitId × SyntaxNode)}
variable {pending pending' : Option NodeId} {u : UnitId} {n : SyntaxNode} {id : NodeId}
variable {span : Span}

/-! ### Labels and sources that grow -/

theorem IsNameIn.append {x : UnitId × SyntaxNode} (h : IsNameIn labels u span id) :
    IsNameIn (labels ++ [x]) u span id := by
  obtain ⟨n, hn, hidentifier, hinside⟩ := h
  exact ⟨n, getElem?_concat_eq_some.mpr (.inl hn), hidentifier, hinside⟩

theorem IsName.append {x : UnitId × SyntaxNode} (h : IsName labels id) :
    IsName (labels ++ [x]) id := by
  obtain ⟨u, n, hn, hidentifier⟩ := h
  exact ⟨u, n, getElem?_concat_eq_some.mpr (.inl hn), hidentifier⟩

theorem ReadsAt.append {unit : UnitSnapshot} {name : String} (h : ReadsAt sources u span name) :
    ReadsAt (sources ++ [unit]) u span name := by
  obtain ⟨found, hfound, hslice⟩ := h
  exact ⟨found, getElem?_concat_eq_some.mpr (.inl hfound), hslice⟩

/-- A node that declares something is no identifier. -/
theorem not_isIdentifier_of_declaredName? {name : NodeId} (h : n.declaredName? = some name) :
    ¬ n.isIdentifier := by
  intro hidentifier
  obtain ⟨kind, span, parent, children⟩ := n
  cases kind <;> cases h <;> cases hidentifier

theorem parts_of_isNameless {kind : NodeKind} (span : Span) (h : kind.isNameless) :
    (⟨kind, span, none, []⟩ : SyntaxNode).identifier? = none ∧
      (⟨kind, span, none, []⟩ : SyntaxNode).declaredName? = none ∧
      (⟨kind, span, none, []⟩ : SyntaxNode).classParts? = none := by
  cases kind with
  | identifier name => cases h
  | classDecl name base => cases h
  | declaration name => cases h
  | _ => exact ⟨rfl, rfl, rfl⟩

namespace Labelled

/-- A new node. If it is an identifier, the text has its name there, and no identifier stands there
yet; if it is a declaration, it is the pending one and extends nothing. -/
theorem append (h : Labelled sources labels pending)
    (hread : ∀ name, n.identifier? = some name → ReadsAt sources u n.span name)
    (hfresh : n.isIdentifier → ∀ (j : Nat) (m : SyntaxNode), labels[j]? = some (u, m) →
      m.isIdentifier → m.span ≠ n.span)
    (hpending : n.declaredName? = none ∧ pending' = pending ∨
      pending = none ∧ pending' = some ⟨labels.length⟩)
    (hbase : ∀ name base, n.classParts? ≠ some (name, some base)) :
    Labelled sources (labels ++ [(u, n)]) pending' where
  identifier := by
    intro i v m name hm hname
    rcases getElem?_concat_eq_some.mp hm with hold | ⟨-, hnew⟩
    · exact h.identifier hold hname
    · cases hnew
      exact hread name hname
  once := by
    intro i j v m m' hm hm' hidentifier hidentifier' hspan
    rcases getElem?_concat_eq_some.mp hm with hold | ⟨hi, hnew⟩
    · rcases getElem?_concat_eq_some.mp hm' with hold' | ⟨-, hnew'⟩
      · exact h.once hold hold' hidentifier hidentifier' hspan
      · cases hnew'
        exact absurd hspan (hfresh hidentifier' i m hold hidentifier)
    · cases hnew
      rcases getElem?_concat_eq_some.mp hm' with hold' | ⟨hj, -⟩
      · exact absurd hspan.symm (hfresh hidentifier j m' hold' hidentifier')
      · rw [hi, hj]
  declaration := by
    intro i v m name hi hm hname
    rcases getElem?_concat_eq_some.mp hm with hold | ⟨hlast, hnew⟩
    · refine (h.declaration ?_ hold hname).append
      rcases hpending with ⟨-, rfl⟩ | ⟨rfl, -⟩
      · exact hi
      · exact Option.some_ne_none _
    · cases hnew
      rcases hpending with ⟨hnone, -⟩ | ⟨-, rfl⟩
      · rw [hnone] at hname
        cases hname
      · rw [hlast] at hi
        exact absurd rfl hi
  base := by
    intro i v m name base hm hparts
    rcases getElem?_concat_eq_some.mp hm with hold | ⟨-, hnew⟩
    · exact (h.base hold hparts).append
    · cases hnew
      exact absurd hparts (hbase name base)
  tags := h.tags

theorem append_nameless (h : Labelled sources labels pending) {kind : NodeKind}
    (hkind : kind.isNameless) :
    Labelled sources (labels ++ [(u, ⟨kind, span, none, []⟩)]) pending := by
  obtain ⟨hidentifier, hdeclared, hparts⟩ := parts_of_isNameless span hkind
  refine h.append ?_ ?_ (.inl ⟨hdeclared, rfl⟩) ?_
  · intro name hname
    rw [hidentifier] at hname
    cases hname
  · intro hsome
    rw [SyntaxNode.isIdentifier, hidentifier] at hsome
    cases hsome
  · intro name base hsome
    rw [hparts] at hsome
    cases hsome

/-- What does not concern the pending declaration holds all the more with one. -/
theorem pend (h : Labelled sources labels none) (id : NodeId) :
    Labelled sources labels (some id) where
  identifier := h.identifier
  once := h.once
  declaration _ := h.declaration (Option.some_ne_none _)
  base := h.base
  tags := h.tags

theorem append_unit (h : Labelled sources labels pending) {unit : UnitSnapshot}
    (hmarkup : unit.markup = none) : Labelled (sources ++ [unit]) labels pending where
  identifier hn hname := (h.identifier hn hname).append
  once := h.once
  declaration := h.declaration
  base := h.base
  tags := by
    intro found document tag hfound hdocument htag
    rcases List.mem_append.mp hfound with hold | hnew
    · exact h.tags hold hdocument htag
    · obtain rfl := List.mem_singleton.mp hnew
      rw [hmarkup] at hdocument
      cases hdocument

/-- The pending declaration is told its name, and maybe what it extends. It was no identifier and is
none now, so nothing else changes. -/
theorem complete (h : Labelled sources labels (some id)) (hid : labels[id.index]? = some (u, n))
    (hplain : ¬ n.isIdentifier) {kind : NodeKind} {name : NodeId}
    (hdeclared : ({ n with kind } : SyntaxNode).declaredName? = some name)
    (hname : IsNameIn labels u n.span name)
    (hbase : ∀ name base, ({ n with kind } : SyntaxNode).classParts? = some (name, some base) →
      IsName labels base) :
    Labelled sources (labels.modify id.index fun x => (x.1, { x.2 with kind })) none := by
  -- An identifier is an old one, and stands elsewhere.
  have hold {j : Nat} {v : UnitId} {m : SyntaxNode} (hidentifier : m.isIdentifier)
      (hm : (labels.modify id.index fun x => (x.1, { x.2 with kind }))[j]? = some (v, m)) :
      labels[j]? = some (v, m) := by
    rcases getElem?_modify_eq_some.mp hm with ⟨-, hother⟩ | ⟨-, x, hx, heq⟩
    · exact hother
    · rw [hid] at hx
      cases hx
      cases heq
      exact absurd hidentifier (not_isIdentifier_of_declaredName? hdeclared)
  have hkeep {j : Nat} {v : UnitId} {m : SyntaxNode} (hidentifier : m.isIdentifier)
      (hm : labels[j]? = some (v, m)) :
      (labels.modify id.index fun x => (x.1, { x.2 with kind }))[j]? = some (v, m) := by
    refine getElem?_modify_eq_some.mpr (.inl ⟨?_, hm⟩)
    rintro rfl
    rw [hid] at hm
    cases hm
    exact hplain hidentifier
  constructor
  case identifier =>
    intro j v m found hm hfound
    exact h.identifier (hold (Option.isSome_of_eq_some hfound) hm) hfound
  case once =>
    intro i j v m m' hm hm' hidentifier hidentifier' hspan
    exact h.once (hold hidentifier hm) (hold hidentifier' hm') hidentifier hidentifier' hspan
  case declaration =>
    intro j v m found _ hm hfound
    have hbefore : IsNameIn labels v m.span found := by
      rcases getElem?_modify_eq_some.mp hm with ⟨hne, hother⟩ | ⟨-, x, hx, heq⟩
      · refine h.declaration ?_ hother hfound
        rintro ⟨⟩
        exact hne rfl
      · rw [hid] at hx
        cases hx
        cases heq
        rw [hdeclared] at hfound
        cases hfound
        exact hname
    obtain ⟨m', hm', hidentifier, hinside⟩ := hbefore
    exact ⟨m', hkeep hidentifier hm', hidentifier, hinside⟩
  case base =>
    intro j v m found base hm hparts
    have hbefore : IsName labels base := by
      rcases getElem?_modify_eq_some.mp hm with ⟨-, hother⟩ | ⟨-, x, hx, heq⟩
      · exact h.base hother hparts
      · rw [hid] at hx
        cases hx
        cases heq
        exact hbase found base hparts
    obtain ⟨v', m', hm', hidentifier⟩ := hbefore
    exact ⟨v', m', hkeep hidentifier hm', hidentifier⟩
  case tags => exact h.tags

/-- A unit is given its tags. -/
theorem set_tags (h : Labelled sources labels pending) {i : Nat} {unit : UnitSnapshot}
    {document : MarkupDocument} (hunit : sources[i]? = some unit)
    (htags : ∀ tag ∈ document.tags, ∃ text, unit.text = some text ∧
      Markup.Faithful text.toList tag) :
    Labelled (sources.modify i fun unit => { unit with markup := some document }) labels
      pending where
  identifier := by
    intro j v m name hm hname
    obtain ⟨found, hfound, hslice⟩ := h.identifier hm hname
    by_cases hi : i = v.index
    · exact ⟨_, getElem?_modify_eq_some.mpr (.inr ⟨hi, found, hi ▸ hfound, rfl⟩), hslice⟩
    · exact ⟨found, getElem?_modify_eq_some.mpr (.inl ⟨hi, hfound⟩), hslice⟩
  once := h.once
  declaration := h.declaration
  base := h.base
  tags := by
    intro found document' tag hfound hdocument htag
    obtain ⟨j, hj⟩ := List.mem_iff_getElem?.mp hfound
    rcases getElem?_modify_eq_some.mp hj with ⟨-, hother⟩ | ⟨-, found', hfound', heq⟩
    · exact h.tags (List.mem_of_getElem? hother) hdocument htag
    · rw [hunit] at hfound'
      cases hfound'
      cases heq
      cases hdocument
      exact htags tag htag

end Labelled

/-! ### Drafts that grow -/

variable {d d' : Draft}

theorem getElem?_labels {i : Nat} :
    d.labels[i]? = some (u, n) ↔ ∃ node, d.nodes[i]? = some (u, node) ∧ node.unlinked = n := by
  rw [Draft.labels, List.getElem?_map, Option.map_eq_some_iff]
  constructor
  · rintro ⟨⟨v, node⟩, hnode, heq⟩
    cases heq
    exact ⟨node, hnode, rfl⟩
  · rintro ⟨node, hnode, rfl⟩
    exact ⟨(u, node), hnode, rfl⟩

theorem getElem?_labels_of_nodes {i : Nat} (h : d.nodes[i]? = some (u, n)) :
    d.labels[i]? = some (u, n.unlinked) :=
  getElem?_labels.mpr ⟨n, h, rfl⟩

theorem labels_insertBelow (parent : NodeId) (kind : NodeKind) :
    (d.insertBelow u parent kind span).labels = d.labels ++ [(u, ⟨kind, span, none, []⟩)] := by
  -- Neither the parent nor the adopted children change but for their links.
  refine (map_modify_of_forall ?_).trans (List.map_append.trans ?_)
  · intro n
    rfl
  · refine congrArg (· ++ _) (map_foldl_modify ?_ _ _)
    intro n
    rfl

/-- What a new node changes. -/
theorem run_addNode_eq {kind : NodeKind} (hrun : (addNode u kind span).run d = .ok (id, d')) :
    id = ⟨d.labels.length⟩ ∧ d'.labels = d.labels ++ [(u, ⟨kind, span, none, []⟩)] ∧
      d'.sources = d.sources ∧ d'.headings = d.headings := by
  obtain ⟨root, hroot, -⟩ := run_addNode hrun
  rw [run_addNode_of_root hroot] at hrun
  cases hrun
  refine ⟨?_, labels_insertBelow _ kind, rfl, rfl⟩
  rw [Draft.labels, List.length_map]

/-- What a new unit changes. -/
theorem run_addUnit_eq {path : Path} {kind : UnitKind} {text : Option String}
    (hrun : (addUnit path kind text).run d = .ok (u, d')) :
    u = ⟨d.sources.length⟩ ∧
      (∃ unit : UnitSnapshot, d'.sources = d.sources ++ [unit] ∧ unit.text = text ∧
        unit.markup = none) ∧
      (d'.labels = d.labels ∨ ∃ span, d'.labels = d.labels ++ [(u, ⟨.other, span, none, []⟩)]) := by
  cases hrun
  refine ⟨?_, ⟨_, List.map_append, rfl, rfl⟩, ?_⟩
  · rw [Draft.sources, List.length_map]
  · cases text with
    | none => exact .inl (congrArg (List.map _) (List.append_nil _))
    | some text => exact .inr ⟨_, List.map_append⟩

theorem labels_setKind {kind : NodeKind} {result : Unit}
    (hrun : (setKind id kind).run d = .ok (result, d')) :
    d'.labels = d.labels.modify id.index (fun x => (x.1, { x.2 with kind })) ∧
      d'.sources = d.sources := by
  cases hrun
  refine ⟨map_modify_comm ?_, rfl⟩
  intro n
  rfl

theorem getElem?_sources {unit : UnitSnapshot} (h : d.units[u.index]? = some unit) :
    d.sources[u.index]? = some unit.source := by
  rw [Draft.sources, List.getElem?_map, h]
  rfl

theorem run_textOf_eq {text : List Char} (hrun : (textOf u).run d = .ok (text, d')) :
    ∃ unit, d.units[u.index]? = some unit ∧ text = (unit.text.getD "").toList ∧ d' = d := by
  obtain ⟨unit, _, hunit, hpure⟩ := run_bind_eq_ok.mp hrun
  obtain ⟨hfound, rfl⟩ := run_unitAt hunit
  cases hpure
  exact ⟨unit, hfound, rfl, rfl⟩

/-- An identifier is found, or it is added with what the text has at the span. -/
theorem run_identifier {definition : Option DefId}
    (hrun : (identifier u span definition).run d = .ok (id, d')) :
    ∃ grown : Draft, d'.labels = grown.labels ∧ d'.sources = grown.sources ∧
      (d.identifierAt? u span = some id ∧ grown = d ∨
        d.identifierAt? u span = none ∧ ∃ name : String, ReadsAt d.sources u span name ∧
          (addNode u (.identifier name) span).run d = .ok (id, grown)) := by
  obtain ⟨_, _, ⟨⟩, hrest⟩ := run_bind_eq_ok.mp hrun
  revert hrest
  extract_lets bound
  -- A binding of the identifier changes nothing in the trees.
  have hbound {found : NodeId} {grown : Draft} (h : (bound found).run grown = .ok (id, d')) :
      found = id ∧ d'.labels = grown.labels ∧ d'.sources = grown.sources := by
    dsimp only [bound] at h
    split at h
    · cases h
      exact ⟨rfl, rfl, rfl⟩
    · cases h
      exact ⟨rfl, rfl, rfl⟩
  intro hrest
  split at hrest
  · rename_i found hfound
    obtain ⟨rfl, hlabels, hsources⟩ := hbound hrest
    exact ⟨d, hlabels, hsources, .inl ⟨hfound, rfl⟩⟩
  · rename_i hnone
    obtain ⟨text, _, htext, hrest⟩ := run_bind_eq_ok.mp hrest
    obtain ⟨name, _, hname, hrest⟩ := run_bind_eq_ok.mp hrest
    obtain ⟨found, grown, hadd, hrest⟩ := run_bind_eq_ok.mp hrest
    obtain ⟨rfl, hlabels, hsources⟩ := hbound hrest
    obtain ⟨unit, hunit, rfl, rfl⟩ := run_textOf_eq htext
    obtain ⟨hslice, rfl⟩ := run_demand hname
    refine ⟨grown, hlabels, hsources, .inr ⟨hnone, String.ofList name, ?_, hadd⟩⟩
    rw [ReadsAt, String.toList_ofList]
    exact ⟨unit.source, getElem?_sources hunit, hslice⟩

theorem exists_of_identifierAt? (h : d.identifierAt? u span = some id) :
    ∃ n, d.labels[id.index]? = some (u, n) ∧ n.isIdentifier ∧ n.span = span := by
  obtain ⟨i, hi, rfl⟩ := Option.map_eq_some_iff.mp h
  obtain ⟨hlt, hfound, -⟩ := List.findIdx?_eq_some_iff_getElem.mp hi
  simp only [Bool.and_eq_true, decide_eq_true_eq] at hfound
  obtain ⟨⟨hunit, hspan⟩, hidentifier⟩ := hfound
  have hnode : d.nodes[i]? = some (u, d.nodes[i].2) := by
    rw [← hunit, List.getElem?_eq_getElem hlt]
  exact ⟨_, getElem?_labels_of_nodes hnode, hidentifier, hspan⟩

theorem span_ne_of_identifierAt? (h : d.identifierAt? u span = none) {j : Nat} {m : SyntaxNode}
    (hm : d.labels[j]? = some (u, m)) (hidentifier : m.isIdentifier) : m.span ≠ span := by
  rintro rfl
  obtain ⟨node, hnode, rfl⟩ := getElem?_labels.mp hm
  have hnot := List.findIdx?_eq_none_iff.mp (Option.map_eq_none_iff.mp h) _
    (List.mem_of_getElem? hnode)
  have hmatch : (decide (u = u) && decide (node.span = node.span) && node.isIdentifier) = true := by
    rw [decide_eq_true rfl, decide_eq_true rfl]
    exact hidentifier
  exact absurd hmatch (Bool.not_eq_true _ ▸ hnot)

/-! ### What the operations keep -/

theorem Named.addNode {kind : NodeKind} (h : d.Named pending) (hkind : kind.isNameless)
    (hrun : (addNode u kind span).run d = .ok (id, d')) : d'.Named pending := by
  obtain ⟨-, hlabels, hsources, -⟩ := run_addNode_eq hrun
  rw [Named, hlabels, hsources]
  exact Labelled.append_nameless h hkind

/-- The identifier at a span is there afterwards, and all that was there before still is. -/
theorem Named.identifier {definition : Option DefId} (h : d.Named pending)
    (hrun : (identifier u span definition).run d = .ok (id, d')) :
    d'.Named pending ∧ d.labels <+: d'.labels ∧
      ∃ n, d'.labels[id.index]? = some (u, n) ∧ n.isIdentifier ∧ n.span = span := by
  obtain ⟨grown, hlabels, hsources, hfound | ⟨hnone, name, hreads, hadd⟩⟩ := run_identifier hrun
  · obtain ⟨hfound, rfl⟩ := hfound
    rw [Named, hlabels, hsources]
    exact ⟨h, List.prefix_refl _, exists_of_identifierAt? hfound⟩
  · obtain ⟨rfl, hadded, hsame, -⟩ := run_addNode_eq hadd
    rw [Named, hlabels, hsources, hadded, hsame]
    refine ⟨?_, List.prefix_append _ _, _, getElem?_concat_eq_some.mpr (.inr ⟨rfl, rfl⟩), rfl, rfl⟩
    refine Labelled.append h ?_ ?_ (.inl ⟨rfl, rfl⟩) ?_
    · rintro _ ⟨⟩
      exact hreads
    · intro _ j m hm hidentifier
      exact span_ne_of_identifierAt? hnone hm hidentifier
    · rintro _ _ ⟨⟩

/-- A declaration is added, waits for its name, and is told it. -/
theorem keeps_named_declare (u : UnitId) (definition : DefId) {span nameSpan : Span}
    {kind : NodeId → NodeKind} (hinside : span.encloses nameSpan)
    (hkind : kind = .declaration ∨ kind = (.classDecl · none)) :
    Keeps (Named none) (declare u definition span nameSpan kind) := by
  intro d _ d' hrun h
  have hdeclares (name : NodeId) :
      (⟨kind name, span, none, []⟩ : SyntaxNode).declaredName? = some name := by
    rcases hkind with rfl | rfl <;> rfl
  have hbase (name found base : NodeId) :
      (⟨kind name, span, none, []⟩ : SyntaxNode).classParts? ≠ some (found, some base) := by
    rcases hkind with rfl | rfl <;> rintro ⟨⟩
  obtain ⟨declaration, added, hadd, hrest⟩ := run_bind_eq_ok.mp hrun
  obtain ⟨name, named, hidentifier, hrest⟩ := run_bind_eq_ok.mp hrest
  obtain ⟨_, told, hset, ⟨⟩⟩ := run_bind_eq_ok.mp hrest
  obtain ⟨rfl, hlabels, hsources, -⟩ := run_addNode_eq hadd
  have hpending : added.Named (some ⟨d.labels.length⟩) := by
    rw [Named, hlabels, hsources]
    refine Labelled.append h ?_ ?_ (.inr ⟨rfl, rfl⟩) (hbase placeholder)
    · intro found hfound
      exact absurd (Option.isSome_of_eq_some hfound)
        (not_isIdentifier_of_declaredName? (hdeclares placeholder))
    · intro hidentifier
      exact absurd hidentifier (not_isIdentifier_of_declaredName? (hdeclares placeholder))
  obtain ⟨hnamed, hgrows, n, hn, hfound, hspan⟩ := hpending.identifier hidentifier
  have hwaits : named.labels[d.labels.length]? =
      some (u, ⟨kind placeholder, span, none, []⟩) := by
    rw [hlabels] at hgrows
    exact getElem?_of_prefix hgrows (getElem?_concat_eq_some.mpr (.inr ⟨rfl, rfl⟩))
  obtain ⟨hlabels', hsources'⟩ := labels_setKind hset
  show Labelled told.sources told.labels none
  rw [hlabels', hsources']
  refine Labelled.complete hnamed hwaits ?_ (hdeclares name) ⟨n, hn, hfound, ?_⟩ ?_
  · exact not_isIdentifier_of_declaredName? (hdeclares placeholder)
  · rw [hspan]
    exact hinside
  · intro found base hparts
    exact absurd hparts (hbase name found base)

theorem withBase_eq (base : NodeId) (kind : NodeKind) :
    withBase base kind = kind ∨
      ∃ name old, kind = .classDecl name old ∧
        withBase base kind = .classDecl name (some base) := by
  cases kind with
  | classDecl name old => exact .inr ⟨name, old, rfl, rfl⟩
  | _ => exact .inl rfl

/-- What a class extends does not touch its name. -/
theorem Named.setBase (h : d.Named none) {node : SyntaxNode} {base : NodeId} {result : Unit}
    (hid : d.nodes[id.index]? = some (u, node)) (hbase : IsName d.labels base)
    (hrun : (setKind id (withBase base node.kind)).run d = .ok (result, d')) : d'.Named none := by
  obtain ⟨hlabels, hsources⟩ := labels_setKind hrun
  have hlabel := getElem?_labels_of_nodes hid
  rw [Named, hlabels, hsources]
  rcases withBase_eq base node.kind with hsame | ⟨name, old, hkind, hset⟩
  · rw [hsame, modify_eq_self hlabel rfl]
    exact h
  · have hdeclared : node.unlinked.declaredName? = some name := by
      simp [SyntaxNode.declaredName?, SyntaxNode.unlinked, hkind]
    rw [hset]
    refine (Labelled.pend h id).complete hlabel ?_ rfl
      (Labelled.declaration h (Option.some_ne_none _) hlabel hdeclared) ?_
    · exact not_isIdentifier_of_declaredName? hdeclared
    · rintro _ _ ⟨⟩
      exact hbase

theorem run_nodeAt {node : SyntaxNode} (hrun : (nodeAt id).run d = .ok (node, d')) :
    (∃ u, d.nodes[id.index]? = some (u, node)) ∧ d' = d := by
  obtain ⟨hfound, rfl⟩ := run_demand hrun
  obtain ⟨⟨u, found⟩, hnode, rfl⟩ := Option.map_eq_some_iff.mp hfound
  exact ⟨⟨u, hnode⟩, rfl⟩

theorem keeps_named_extend (u : UnitId) (id base : DefId) :
    Keeps (Named none) (extend u id base) := by
  refine Keeps.get.bind fun _ => (Keeps.demand _ _).bind fun declaration => ?_
  refine (Keeps.definitionAt base).bind fun _ => (Keeps.textOf u).bind fun _ => ?_
  refine (Keeps.nodeAt declaration).bind fun _ => (Keeps.demand _ _).bind fun _ => ?_
  intro d _ d' hrun h
  obtain ⟨name, named, hidentifier, hrest⟩ := run_bind_eq_ok.mp hrun
  obtain ⟨node, _, hnode, hset⟩ := run_bind_eq_ok.mp hrest
  obtain ⟨⟨v, hfound⟩, rfl⟩ := run_nodeAt hnode
  obtain ⟨hnamed, -, n, hn, hname, -⟩ := h.identifier hidentifier
  exact hnamed.setBase hfound ⟨u, n, hn, hname⟩ hset

theorem keeps_named_addUnit (path : Path) (kind : UnitKind) (text : Option String) :
    Keeps (Named none) (addUnit path kind text) := by
  intro d u d' hrun h
  obtain ⟨-, ⟨unit, hsources, -, hmarkup⟩, hlabels⟩ := run_addUnit_eq hrun
  have hadded : Labelled (d.sources ++ [unit]) d.labels none := Labelled.append_unit h hmarkup
  rw [Named, hsources]
  rcases hlabels with hlabels | ⟨span, hlabels⟩
  · rw [hlabels]
    exact hadded
  · rw [hlabels]
    exact hadded.append_nameless rfl

theorem Named.setTags (h : d.Named pending) {unit : UnitSnapshot} {document : MarkupDocument}
    {result : Unit} (hunit : d.sources[u.index]? = some unit)
    (htags : ∀ tag ∈ document.tags, ∃ text, unit.text = some text ∧
      Markup.Faithful text.toList tag)
    (hrun : (modifyUnit u fun unit => { unit with markup := some document }).run d =
      .ok (result, d')) : d'.Named pending := by
  obtain ⟨_, d, hfound, ⟨⟩⟩ := run_bind_eq_ok.mp hrun
  obtain ⟨-, rfl⟩ := run_unitAt hfound
  have hsources : (d.units.modify u.index fun unit => { unit with markup := some document }).map
      UnitSnapshot.source =
        d.sources.modify u.index fun unit => { unit with markup := some document } := by
    apply map_modify_comm
    intro unit
    rfl
  show Labelled (List.map _ _) _ _
  rw [hsources]
  exact Labelled.set_tags h hunit htags

/-- The tags of a markup unit are scanned from its own text. -/
theorem keeps_named_markup (path : Path) (text : String) :
    Keeps (Named none) (markup path text) := by
  intro d _ d' hrun h
  obtain ⟨u, added, hadd, hrest⟩ := run_bind_eq_ok.mp hrun
  obtain ⟨_, scanned, hscan, hrest⟩ := run_bind_eq_ok.mp hrest
  obtain ⟨_, _, hbodies, hreturn⟩ := run_bind_eq_ok.mp hrest
  have hadded := keeps_named_addUnit path .markup (some text) d u added hadd h
  obtain ⟨rfl, ⟨unit, hsources, htext, -⟩, -⟩ := run_addUnit_eq hadd
  have hunit : added.sources[d.sources.length]? = some unit := by
    rw [hsources]
    exact List.getElem?_concat_length
  have hscanned : scanned.Named none := by
    refine hadded.setTags hunit ?_ hscan
    intro tag htag
    exact ⟨text, htext, Markup.faithful_of_mem_document htag⟩
  have hstyle (body : Span) :
      Keeps (Named none) (discard (addNode ⟨d.sources.length⟩ .styleBlock body)) := by
    refine Keeps.map _ ?_
    intro d id d' hrun h
    exact h.addNode rfl hrun
  cases hreturn
  exact Keeps.forM hstyle _ _ _ hbodies hscanned

/-! ### Every draft -/

theorem keeps_named_addDefinition (definition : Definition) :
    Keeps (Named none) (addDefinition definition) := by
  intro d _ d' hrun h
  cases hrun
  exact h

theorem invariant_named : Invariant (fun kind => kind.isNameless) (Named none) where
  unit := keeps_named_addUnit
  definition definition _ := keeps_named_addDefinition definition
  rest := by
    intro d d' hnodes hsources _ h
    rw [Named, hsources, Draft.labels, hnodes]
    exact h
  markup := keeps_named_markup
  node := by
    intro u kind span hkind d id d' hrun h
    exact h.addNode hkind hrun
  identifier := by
    intro u span definition d id d' hrun h
    exact (h.identifier hrun).1
  declare u definition _ _ _ hinside hkind := keeps_named_declare u definition hinside hkind
  extend := keeps_named_extend

theorem named_nil : Named none {} := by
  constructor <;> intros <;> contradiction

end Draft

end SymbolNav
