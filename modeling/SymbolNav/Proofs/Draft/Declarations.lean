import SymbolNav.Proofs.Draft.Names
import SymbolNav.Proofs.Draft.Trees

/-!
# Names of definitions

A definition that a step has looked for in a unit says where its name stands. It goes on saying so:
of a definition only the kind and the visibility change later, and of a unit neither the path nor
the text. A run of steps therefore accounts for all definitions with a place of their name: each of
them is the answer of one step, and its name is what the unit of that step has at the place.
-/

namespace SymbolNav.Draft

def texts (d : Draft) : List (Path × Option String) :=
  d.units.map fun unit => (unit.path, unit.text)

/-- The draft has the headings and the texts, and maybe more texts and definitions behind them, but
none that says where its name stands. -/
def Extends (headings : List Definition) (texts : List (Path × Option String)) (d : Draft) : Prop :=
  (∃ added, d.headings = headings ++ added ∧ ∀ heading ∈ added, heading.nameSpan = none) ∧
    texts <+: d.texts

/-- The heading is that of a definition of the unit, which has the name where the heading says. -/
def IsOf (texts : List (Path × Option String)) (u : UnitId) (heading : Definition) : Prop :=
  ∃ text?, texts[u.index]? = some (heading.containingFile, text?) ∧
    ∀ span, heading.nameSpan = some span →
      ∃ text, text? = some text ∧ Text.slice? text.toList span = some heading.name.toList

/-- The draft has grown by a definition of the unit, and by nothing else that says where its name
stands. -/
structure Declares (d : Draft) (u : UnitId) (heading : Definition) (id : DefId) (d' : Draft) :
    Prop where
  fresh : id.index = d.headings.length
  isOf : IsOf d.texts u heading
  grows : Extends (d.headings ++ [heading]) d.texts d'

variable {α β : Type} {d d' : Draft} {u : UnitId} {id : DefId} {heading : Definition}
variable {headings : List Definition} {texts : List (Path × Option String)}

/-! ### What leaves the names alone -/

theorem texts_eq_map_sources : d.texts = d.sources.map fun unit => (unit.path, unit.text) := by
  rw [sources, List.map_map]
  rfl

theorem Extends.refl (d : Draft) : Extends d.headings d.texts d :=
  ⟨⟨[], (List.append_nil _).symm, fun _ h => absurd h List.not_mem_nil⟩, List.prefix_refl _⟩

theorem Extends.rest (h : Extends headings texts d) (hheadings : d'.headings = d.headings)
    (htexts : d'.texts = d.texts) : Extends headings texts d' := by
  rw [Extends, hheadings, htexts]
  exact h

theorem Extends.headings_prefix (h : Extends headings texts d) : headings <+: d.headings := by
  obtain ⟨⟨added, hadded, -⟩, -⟩ := h
  exact ⟨added, hadded.symm⟩

theorem Extends.getElem?_headings (h : Extends headings texts d) {i : Nat}
    (hheading : d.headings[i]? = some heading) (hspan : heading.nameSpan ≠ none) :
    headings[i]? = some heading := by
  obtain ⟨⟨added, hadded, hnameless⟩, -⟩ := h
  rw [hadded] at hheading
  by_cases hi : i < headings.length
  · rwa [List.getElem?_append_left hi] at hheading
  · rw [List.getElem?_append_right (Nat.le_of_not_lt hi)] at hheading
    exact absurd (hnameless heading (List.mem_of_getElem? hheading)) hspan

theorem stable_extends : Stable (Extends headings texts) where
  unit := by
    intro path kind text d u d' hrun h
    cases hrun
    refine ⟨h.1, h.2.trans ?_⟩
    exact ⟨_, List.map_append.symm⟩
  definition := by
    intro definition hspan d id d' hrun h
    cases hrun
    obtain ⟨⟨added, hadded, hnameless⟩, htexts⟩ := h
    refine ⟨⟨added ++ [definition.heading], ?_, ?_⟩, htexts⟩
    · rw [← List.append_assoc, ← hadded]
      exact List.map_append
    · intro heading hmem
      rcases List.mem_append.mp hmem with hold | hnew
      · exact hnameless heading hold
      · rw [List.mem_singleton.mp hnew]
        exact hspan
  rest := by
    intro d d' _ hsources hheadings h
    exact h.rest hheadings (by rw [texts_eq_map_sources, hsources, texts_eq_map_sources])
  tags := by
    intro u document
    refine (Keeps.unitAt u).bind fun _ => Keeps.modify fun d h => h.rest rfl ?_
    show (d.units.modify _ _).map _ = _
    exact map_modify_of_forall fun _ => rfl
  node := by
    intro u kind span d id d' hrun h
    obtain ⟨-, -, hsources, hheadings⟩ := run_addNode_eq hrun
    exact h.rest hheadings (by rw [texts_eq_map_sources, hsources, texts_eq_map_sources])
  kind := by
    intro id kind d _ d' hrun h
    cases hrun
    exact h.rest rfl rfl

/-! ### One definition -/

/-- Where the computation succeeds on the draft, its answer and the draft it leaves are so. -/
def Gives (d : Draft) (x : Build α) (Q : α → Draft → Prop) : Prop :=
  ∀ a d', x.run d = .ok (a, d') → Q a d'

/-- A computation that keeps everything leaves the draft as it is. -/
theorem Gives.read {x : Build α} {f : α → Build β} {Q : β → Draft → Prop} (hx : ∀ P, Keeps P x)
    (h : ∀ a, x.run d = .ok (a, d) → Gives d (f a) Q) : Gives d (x >>= f) Q := by
  intro b d' hrun
  obtain ⟨a, middle, hfirst, hrest⟩ := run_bind_eq_ok.mp hrun
  obtain rfl : middle = d := hx (· = d) d a middle hfirst rfl
  exact h a hfirst b d' hrest

/-- The computation answers the value, whatever else it does. -/
def Answers (a : α) (x : Build α) : Prop :=
  ∀ d b d', x.run d = .ok (b, d') → b = a

theorem Answers.pure (a : α) : Answers a (Pure.pure a : Build α) := by
  intro d b d' hrun
  cases hrun
  rfl

theorem Answers.bind {a : β} {x : Build α} {f : α → Build β} (h : ∀ b, Answers a (f b)) :
    Answers a (x >>= f) := by
  intro d b d' hrun
  obtain ⟨_, middle, -, hrest⟩ := run_bind_eq_ok.mp hrun
  exact h _ middle b d' hrest

/-- A definition is added, its handle is answered, and what is done in between adds no other. -/
theorem gives_addDefinition {definition : Definition} {f : DefId → Build DefId}
    (hisOf : IsOf d.texts u definition.heading) (hanswers : ∀ id, Answers id (f id))
    (hkeeps : ∀ id, Keeps (Extends (d.headings ++ [definition.heading]) d.texts) (f id)) :
    Gives d (addDefinition definition >>= f) (Declares d u definition.heading) := by
  intro id d' hrun
  obtain ⟨fresh, added, hadd, hrest⟩ := run_bind_eq_ok.mp hrun
  have hid := hanswers fresh added id d' hrest
  have hgrows := hkeeps fresh added id d' hrest
  cases hadd
  refine ⟨?_, hisOf, hgrows ?_⟩
  · rw [hid, Draft.headings, List.length_map]
  · refine ⟨⟨[], ?_, fun _ h => absurd h List.not_mem_nil⟩, List.prefix_refl _⟩
    rw [List.append_nil]
    exact List.map_append

theorem getElem?_texts {unit : UnitSnapshot} (h : d.units[u.index]? = some unit) :
    d.texts[u.index]? = some (unit.path, unit.text) := by
  rw [Draft.texts, List.getElem?_map, h]
  rfl

/-- The name behind a keyword that has been found is what the text has at its place. -/
theorem isOf_of_found {unit : UnitSnapshot} {within keyword : Span} {word name : String}
    (hunit : d.units[u.index]? = some unit) (hword : word.toList ≠ [])
    (hfound : (Text.wordOccurrences (unit.text.getD "").toList (word ++ name).toList
      within).head? = some keyword)
    (hfile : heading.containingFile = unit.path) (hname : heading.name = name)
    (hspan : heading.nameSpan = some (nameWithin keyword name)) : IsOf d.texts u heading := by
  refine ⟨unit.text, hfile ▸ getElem?_texts hunit, ?_⟩
  intro span hsome
  obtain rfl := Option.some.inj (hspan.symm.trans hsome)
  have hslice := slice?_nameWithin hfound
  have hnonempty := Text.ne_nil_of_mem_wordOccurrences (mem_of_found hfound)
    (List.append_ne_nil_of_left_ne_nil hword _)
  cases htext : unit.text with
  | none =>
      rw [htext] at hnonempty
      exact absurd rfl hnonempty
  | some text =>
      rw [htext] at hslice
      exact ⟨text, rfl, hname ▸ hslice⟩

/-- A definition whose name stands nowhere in its file. -/
theorem isOf_of_none {unit : UnitSnapshot} (hunit : d.units[u.index]? = some unit)
    (hfile : heading.containingFile = unit.path) (hspan : heading.nameSpan = none) :
    IsOf d.texts u heading := by
  refine ⟨unit.text, hfile ▸ getElem?_texts hunit, ?_⟩
  intro span hsome
  rw [hspan] at hsome
  cases hsome

/-- The computation adds a definition of the unit that says where its name stands. -/
def AddsNamed (d : Draft) (u : UnitId) (x : Build DefId) : Prop :=
  Gives d x fun id d' => ∃ heading, Declares d u heading id d' ∧ heading.nameSpan ≠ none

theorem addsNamed_of_found {unit : UnitSnapshot} {within keyword : Span} {word name : String}
    {definition : Definition} {f : DefId → Build DefId} (hunit : d.units[u.index]? = some unit)
    (hword : word.toList ≠ [])
    (hfound : (Text.wordOccurrences (unit.text.getD "").toList (word ++ name).toList
      within).head? = some keyword)
    (hfile : definition.containingFile = unit.path) (hname : definition.name = name)
    (hspan : definition.nameSpan = some (nameWithin keyword name))
    (hanswers : ∀ id, Answers id (f id))
    (hkeeps : ∀ id headings texts, Keeps (Extends headings texts) (f id)) :
    AddsNamed d u (addDefinition definition >>= f) := by
  intro id d' hrun
  have hisOf : IsOf d.texts u definition.heading :=
    isOf_of_found hunit hword hfound hfile hname hspan
  refine ⟨_, gives_addDefinition hisOf hanswers (fun id => hkeeps id _ _) id d' hrun, ?_⟩
  show definition.nameSpan ≠ none
  rw [hspan]
  exact Option.some_ne_none _

theorem addsNamed_declareClass (d : Draft) (u : UnitId) (owner : Option DefId) (name : String) :
    AddsNamed d u (declareClass u owner name) := by
  refine .read (fun _ => Keeps.textOf u) fun text htext => ?_
  obtain ⟨unit, hunit, rfl, -⟩ := run_textOf_eq htext
  refine .read (fun _ => Keeps.demand _ _) fun keyword hkeyword => ?_
  refine .read (fun _ => Keeps.qualify owner name) fun qualified _ => ?_
  refine .read (fun _ => Keeps.unitAt u) fun same hsame => ?_
  obtain rfl := Option.some.inj (hunit.symm.trans (run_unitAt hsame).1)
  refine addsNamed_of_found hunit (by decide) (run_demand hkeyword).1 rfl rfl rfl ?_ ?_
  · exact fun id => .bind fun _ => .bind fun _ => .pure id
  · intro id _ _
    refine (stable_extends.place u owner id).bind fun _ => ?_
    exact (stable_extends.declare u id _ _ _).bind fun _ => Keeps.pure id

theorem addsNamed_declareWithin {missing : DraftError} {word : String}
    {kind : List Char → Span → DefinitionKind} {stop : List Char → Nat → Nat}
    (hword : word.toList ≠ []) (d : Draft) (u : UnitId) (owner : DefId) (name : String) :
    AddsNamed d u (declareWithin missing word kind stop u owner name) := by
  refine .read (fun _ => Keeps.textOf u) fun text htext => ?_
  obtain ⟨unit, hunit, rfl, -⟩ := run_textOf_eq htext
  refine .read (fun _ => Keeps.body u owner) fun within _ => ?_
  refine .read (fun _ => Keeps.demand _ _) fun keyword hkeyword => ?_
  refine .read (fun _ => Keeps.qualify _ name) fun qualified _ => ?_
  refine .read (fun _ => Keeps.unitAt u) fun same hsame => ?_
  obtain rfl := Option.some.inj (hunit.symm.trans (run_unitAt hsame).1)
  refine addsNamed_of_found hunit hword (run_demand hkeyword).1 rfl rfl rfl ?_ ?_
  · exact fun id => .bind fun _ => .pure id
  · exact fun id _ _ => (stable_extends.declare u id _ _ _).bind fun _ => Keeps.pure id

/-- The place of a name between the quotes of an attribute. -/
theorem slice?_idValue {unit : UnitSnapshot} {document : MarkupDocument} {name : String}
    {span : Span} (h : d.Named none) (hunit : d.units[u.index]? = some unit)
    (hmarkup : unit.markup = some document) (hvalue : idValue? document name = some span) :
    ∃ text, unit.text = some text ∧ Text.slice? text.toList span = some name.toList := by
  obtain ⟨a, hfind, hspan⟩ := Option.bind_eq_some_iff.mp hvalue
  obtain ⟨tag, htag, ha⟩ := List.mem_flatMap.mp (List.mem_of_find?_eq_some hfind)
  have hname := List.find?_some hfind
  rw [Bool.and_eq_true, decide_eq_true_eq, decide_eq_true_eq] at hname
  obtain ⟨text, htext, hfaithful⟩ :=
    Labelled.tags h (List.mem_of_getElem? (getElem?_sources hunit)) hmarkup htag
  refine ⟨text, htext, ?_⟩
  rw [← hname.2]
  exact (hfaithful.tells a ha).value span hspan

theorem addsNamed_idField (h : d.Named none) (u : UnitId) (owner : DefId) (name : String) :
    AddsNamed d u (idField u owner name) := by
  refine .read (fun _ => Keeps.unitAt u) fun unit hunit => ?_
  refine .read (fun _ => Keeps.demand _ _) fun span hspan => ?_
  refine .read (fun _ => Keeps.qualify _ name) fun qualified _ => ?_
  refine .read (fun _ => Keeps.unitAt u) fun same hsame => ?_
  obtain ⟨hunit, -⟩ := run_unitAt hunit
  obtain rfl := Option.some.inj (hunit.symm.trans (run_unitAt hsame).1)
  obtain ⟨document, hmarkup, hvalue⟩ := Option.bind_eq_some_iff.mp (run_demand hspan).1
  intro id d' hrun
  refine ⟨_, gives_addDefinition ?_ ?_ ?_ id d' hrun, Option.some_ne_none _⟩
  · refine ⟨unit.text, getElem?_texts hunit, ?_⟩
    rintro _ ⟨⟩
    exact slice?_idValue h hunit hmarkup hvalue
  · exact fun id => .bind fun _ => .pure id
  · exact fun id => (stable_extends.pushMember owner id).bind fun _ => Keeps.pure id

/-- What is done with a definition once it is there does not touch its name. -/
theorem AddsNamed.bind {x : Build DefId} {f : DefId → Build DefId} (h : AddsNamed d u x)
    (hanswers : ∀ id, Answers id (f id))
    (hkeeps : ∀ id headings texts, Keeps (Extends headings texts) (f id)) :
    AddsNamed d u (x >>= f) := by
  intro id d' hrun
  obtain ⟨fresh, added, hadd, hrest⟩ := run_bind_eq_ok.mp hrun
  obtain rfl := hanswers fresh added id d' hrest
  obtain ⟨heading, hdeclares, hspan⟩ := h id added hadd
  refine ⟨heading, ⟨hdeclares.fresh, hdeclares.isOf, ?_⟩, hspan⟩
  exact hkeeps id _ _ added id d' hrest hdeclares.grows

theorem addsNamed_constructor (d : Draft) (u : UnitId) (owner : DefId) :
    AddsNamed d u (constructor u owner) := by
  refine .read (fun _ => Keeps.definitionAt owner) fun definition _ => ?_
  refine (addsNamed_declareWithin (by decide) d u owner _).bind ?_ ?_
  · exact fun id => .bind fun _ => .pure id
  · intro id _ _
    exact Keeps.bind (stable_extends.modifyDefinition owner fun _ => rfl) fun _ => Keeps.pure id

/-- A function or variable that becomes a member of its owner. -/
theorem AddsNamed.member {x : Build DefId} (h : AddsNamed d u x) (owner : DefId) :
    AddsNamed d u (x >>= fun id => pushMember owner id >>= fun _ => pure id) := by
  refine h.bind ?_ ?_
  · exact fun id => .bind fun _ => .pure id
  · exact fun id _ _ => (stable_extends.pushMember owner id).bind fun _ => Keeps.pure id

/-- A package may not be declared in the text. If it is, its name stands there. -/
theorem gives_package (d : Draft) (u : UnitId) (name : String) :
    Gives d (package u name) fun id d' => ∃ heading, Declares d u heading id d' := by
  refine .read (fun _ => Keeps.textOf u) fun text htext => ?_
  obtain ⟨unit, hunit, rfl, -⟩ := run_textOf_eq htext
  refine .read (fun _ => Keeps.unitAt u) fun same hsame => ?_
  obtain rfl := Option.some.inj (hunit.symm.trans (run_unitAt hsame).1)
  intro id d' hrun
  refine ⟨_, gives_addDefinition ?_ ?_ ?_ id d' hrun⟩
  · cases hfound : (Text.wordOccurrences (unit.text.getD "").toList ("package " ++ name).toList
        (whole (unit.text.getD "").toList)).head? with
    | none => exact isOf_of_none hunit rfl rfl
    | some keyword =>
        by_cases hname : name = ""
        · refine isOf_of_none hunit rfl ?_
          simp [Definition.heading, hname]
        · refine isOf_of_found hunit (by decide) hfound rfl rfl ?_
          simp [Definition.heading, hname]
  · exact fun id => .bind fun _ => .pure id
  · exact fun id => (stable_extends.addToScope u id).bind fun _ => Keeps.pure id

/-! ### One step -/

theorem run_map_eq_ok {x : Build α} {f : α → β} {b : β} (hrun : (f <$> x).run d = .ok (b, d')) :
    ∃ a, x.run d = .ok (a, d') ∧ b = f a := by
  rw [map_eq_pure_bind] at hrun
  obtain ⟨a, _, hx, ⟨⟩⟩ := run_bind_eq_ok.mp hrun
  exact ⟨a, hx, rfl⟩

/-- A step that looks for a name answers the definition it adds, which only for a package may not
say where its name stands. -/
theorem declares_of_perform (h : d.Named none) {step : Step} {f : Found}
    (hu : step.declaresIn? = some u) (hrun : (perform step).run d = .ok (f, d')) :
    ∃ id heading, f = .definition id ∧ Declares d u heading id d' ∧
      (heading.nameSpan = none → ∃ name, step = .package u name) := by
  have hnamed {x : Build DefId} (hx : AddsNamed d u x)
      (hrun : (Found.definition <$> x).run d = .ok (f, d')) :
      ∃ id heading, f = .definition id ∧ Declares d u heading id d' ∧
        (heading.nameSpan = none → ∃ name, step = .package u name) := by
    obtain ⟨id, hrun, hf⟩ := run_map_eq_ok hrun
    obtain ⟨heading, hdeclares, hspan⟩ := hx id d' hrun
    exact ⟨id, heading, hf, hdeclares, fun hnone => absurd hnone hspan⟩
  cases step with
  | package v name =>
      cases hu
      obtain ⟨id, hrun, hf⟩ := run_map_eq_ok hrun
      obtain ⟨heading, hdeclares⟩ := gives_package d u name id d' hrun
      exact ⟨id, heading, hf, hdeclares, fun _ => ⟨name, rfl⟩⟩
  | classDecl v owner name =>
      cases hu
      exact hnamed (addsNamed_declareClass d u owner name) hrun
  | method v owner name =>
      cases hu
      exact hnamed ((addsNamed_declareWithin (by decide) d u owner name).member owner) hrun
  | localFunction v owner name =>
      cases hu
      exact hnamed (addsNamed_declareWithin (by decide) d u owner name) hrun
  | constructor v owner =>
      cases hu
      exact hnamed (addsNamed_constructor d u owner) hrun
  | field v owner name =>
      cases hu
      exact hnamed ((addsNamed_declareWithin (by decide) d u owner name).member owner) hrun
  | localVariable v owner name =>
      cases hu
      exact hnamed (addsNamed_declareWithin (by decide) d u owner name) hrun
  | idField v owner name =>
      cases hu
      exact hnamed (addsNamed_idField h u owner name) hrun
  | _ => cases hu

/-- The steps account for what has come to a draft: those that look for a name have added a
definition of their unit each, and nothing else that was added says where its name stands. -/
structure Accounts (d : Draft) (steps : List Step) (found : List Found) (d' : Draft) : Prop where
  headings : d.headings <+: d'.headings
  texts : d.texts <+: d'.texts
  declares : ∀ {i : Nat} {step : Step} {u : UnitId}, steps[i]? = some step →
    step.declaresIn? = some u → ∃ id heading, found[i]? = some (.definition id) ∧
      d'.headings[id.index]? = some heading ∧ IsOf d'.texts u heading ∧
      (heading.nameSpan = none → ∃ name, step = .package u name)
  named : ∀ {id : DefId} {heading : Definition}, d'.headings[id.index]? = some heading →
    heading.nameSpan ≠ none → d.headings[id.index]? = some heading ∨
      ∃ (i : Nat) (step : Step) (u : UnitId), steps[i]? = some step ∧ step.declaresIn? = some u ∧
        found[i]? = some (.definition id)

theorem IsOf.mono (h : IsOf texts u heading) {more : List (Path × Option String)}
    (hmore : texts <+: more) : IsOf more u heading := by
  obtain ⟨text?, htext, hspan⟩ := h
  exact ⟨text?, getElem?_of_prefix hmore htext, hspan⟩

namespace Accounts

variable {step : Step} {steps rest : List Step} {f : Found} {found more : List Found}
variable {middle : Draft}

theorem nil (d : Draft) : Accounts d [] [] d where
  headings := List.prefix_refl _
  texts := List.prefix_refl _
  declares h := by cases h
  named h _ := .inl h

theorem cons (hstep : Accounts d [step] [f] middle) (hrest : Accounts middle rest more d') :
    Accounts d (step :: rest) (f :: more) d' where
  headings := hstep.headings.trans hrest.headings
  texts := hstep.texts.trans hrest.texts
  declares := by
    intro i s u hs hu
    cases i with
    | zero =>
        obtain ⟨id, heading, hf, hheading, hisOf, hpackage⟩ := hstep.declares (i := 0) hs hu
        exact ⟨id, heading, hf, getElem?_of_prefix hrest.headings hheading, hisOf.mono hrest.texts,
          hpackage⟩
    | succ i => exact hrest.declares (i := i) hs hu
  named := by
    intro id heading hheading hspan
    rcases hrest.named hheading hspan with hmiddle | ⟨i, s, u, hs, hu, hanswer⟩
    · rcases hstep.named hmiddle hspan with hold | ⟨i, s, u, hs, hu, hanswer⟩
      · exact .inl hold
      · cases i with
        | zero => exact .inr ⟨0, s, u, hs, hu, hanswer⟩
        | succ i => cases hs
    · exact .inr ⟨i + 1, s, u, hs, hu, hanswer⟩

end Accounts

theorem accounts_of_extends {step : Step} (f : Found) (hu : step.declaresIn? = none)
    (h : Extends d.headings d.texts d') : Accounts d [step] [f] d' where
  headings := h.headings_prefix
  texts := h.2
  declares := by
    intro i s u hs hdeclares
    cases i with
    | zero =>
        cases hs
        rw [hu] at hdeclares
        cases hdeclares
    | succ i => cases hs
  named hheading hspan := .inl (h.getElem?_headings hheading hspan)

theorem accounts_of_declares {step : Step} (hu : step.declaresIn? = some u)
    (h : Declares d u heading id d')
    (hpackage : heading.nameSpan = none → ∃ name, step = .package u name) :
    Accounts d [step] [.definition id] d' where
  headings := (List.prefix_append _ _).trans h.grows.headings_prefix
  texts := h.grows.2
  declares := by
    intro i s v hs hdeclares
    cases i with
    | zero =>
        cases hs
        obtain rfl := Option.some.inj (hu.symm.trans hdeclares)
        refine ⟨id, heading, rfl, ?_, h.isOf.mono h.grows.2, hpackage⟩
        exact getElem?_of_prefix h.grows.headings_prefix
          (getElem?_concat_eq_some.mpr (.inr ⟨h.fresh, rfl⟩))
    | succ i => cases hs
  named := by
    intro other heading' hheading hspan
    rcases getElem?_concat_eq_some.mp (h.grows.getElem?_headings hheading hspan) with
      hold | ⟨hlast, -⟩
    · exact .inl hold
    · obtain rfl : id = other := by
        obtain ⟨i⟩ := id
        obtain ⟨j⟩ := other
        exact congrArg DefId.mk (h.fresh.trans hlast.symm)
      exact .inr ⟨0, step, u, rfl, hu, rfl⟩

/-- Each step accounts for what it has added. -/
theorem accounts_of_perform (h : d.Named none) {step : Step} {f : Found}
    (hrun : (perform step).run d = .ok (f, d')) : Accounts d [step] [f] d' := by
  cases hu : step.declaresIn? with
  | none =>
      refine accounts_of_extends f hu ?_
      refine stable_extends.invariant.perform step (fun _ _ => trivial) ?_ d f d' hrun (.refl d)
      exact fun hdeclares => absurd hu hdeclares
  | some u =>
      obtain ⟨id, heading, rfl, hdeclares, hpackage⟩ := declares_of_perform h hu hrun
      exact accounts_of_declares hu hdeclares hpackage

/-! ### A run -/

/-- A run keeps the names in the trees, and accounts for the definitions. -/
theorem named_and_accounts_of_run {steps : List Step} {found : List Found} (h : d.Named none)
    (hkinds : ∀ step ∈ steps, ∀ kind ∈ step.givenKind?, kind.isNameless)
    (hrun : run d steps = (found, .ok d')) : d'.Named none ∧ Accounts d steps found d' := by
  induction steps generalizing d found with
  | nil =>
      cases hrun
      exact ⟨h, .nil _⟩
  | cons step rest ih =>
      obtain ⟨hstepKinds, hrestKinds⟩ := List.forall_mem_cons.mp hkinds
      rw [run] at hrun
      split at hrun
      · cases hrun
      · rename_i f middle hstep
        have hnamed : middle.Named none := invariant_named.perform step hstepKinds
          (fun _ => keeps_named_addDefinition) d f middle hstep h
        obtain ⟨rfl, hrest⟩ := Prod.mk.inj hrun
        obtain ⟨hlater, haccounts⟩ := ih hnamed hrestKinds (Prod.ext rfl hrest)
        exact ⟨hlater, (accounts_of_perform h hstep).cons haccounts⟩

/-- The text of the unit has the name at the span. -/
def HasText (d : Draft) (u : UnitId) (span : Span) (name : String) : Prop :=
  ∃ unit text, d.units[u.index]? = some unit ∧ unit.text = some text ∧
    Text.slice? text.toList span = some name.toList

/-- What the draft that the steps have built records of names is what stands in the texts. -/
structure NamesMatch (steps : List Step) (found : List Found) (d : Draft) : Prop where
  identifier : ∀ {id : NodeId} {u : UnitId} {n : SyntaxNode} {name : String},
    d.nodes[id.index]? = some (u, n) → n.identifier? = some name → d.HasText u n.span name
  /-- Of a unit, no two identifiers have the same span. -/
  once : ∀ {first second : NodeId} {u : UnitId} {m n : SyntaxNode},
    d.nodes[first.index]? = some (u, m) → d.nodes[second.index]? = some (u, n) → m.isIdentifier →
    n.isIdentifier → m.span = n.span → first = second
  /-- A step that looks for a name in a unit answers a definition of this unit. Its name is what the
  unit has at the place, and only a package may have none. -/
  definition : ∀ {i : Nat} {step : Step} {u : UnitId}, steps[i]? = some step →
    step.declaresIn? = some u → ∃ id definition unit, found[i]? = some (.definition id) ∧
      d.definitions[id.index]? = some definition ∧ d.units[u.index]? = some unit ∧
      definition.containingFile = unit.path ∧
      (definition.nameSpan = none → ∃ name, step = .package u name) ∧
      ∀ span, definition.nameSpan = some span → d.HasText u span definition.name
  /-- Every definition that says where its name stands is the answer of such a step, and the unit of
  the step has its name there. -/
  named : ∀ {id : DefId} {definition : Definition} {span : Span},
    d.definitions[id.index]? = some definition → definition.nameSpan = some span →
    ∃ (i : Nat) (step : Step) (u : UnitId), steps[i]? = some step ∧ step.declaresIn? = some u ∧
      found[i]? = some (.definition id) ∧ d.HasText u span definition.name
  /-- A declaration names an identifier of its unit that lies inside it. -/
  declaration : ∀ {id name : NodeId} {u : UnitId} {n : SyntaxNode},
    d.nodes[id.index]? = some (u, n) → n.declaredName? = some name →
    ∃ m, d.nodes[name.index]? = some (u, m) ∧ m.isIdentifier ∧ n.span.encloses m.span
  base : ∀ {id name base : NodeId} {u : UnitId} {n : SyntaxNode},
    d.nodes[id.index]? = some (u, n) → n.classParts? = some (name, some base) →
    ∃ v m, d.nodes[base.index]? = some (v, m) ∧ m.isIdentifier
  /-- The placeholder is left nowhere, as long as it is not the handle of a node. -/
  complete : d.nodes.length ≤ placeholder.index →
    ∀ {id name : NodeId} {u : UnitId} {n : SyntaxNode}, d.nodes[id.index]? = some (u, n) →
    n.declaredName? ≠ some placeholder ∧ n.classParts? ≠ some (name, some placeholder)

/-! ### From the invariants to the draft -/

theorem Named.hasText (h : d.Named none) (hforest : d.IsForest) {id : NodeId} {n : SyntaxNode}
    {name : String} (hn : d.nodes[id.index]? = some (u, n)) (hname : n.identifier? = some name) :
    d.HasText u n.span name := by
  -- The invariant takes a missing text for an empty one, but a unit with nodes has a text.
  obtain ⟨unit, hunit, hsome⟩ := hforest.exists_unit ⟨n, hn⟩
  obtain ⟨text, htext⟩ := Option.isSome_iff_exists.mp hsome
  have hread : ReadsAt d.sources u n.unlinked.span name :=
    Labelled.identifier h (getElem?_labels_of_nodes hn) hname
  obtain ⟨source, hsource, hslice⟩ := hread
  obtain rfl := Option.some.inj ((getElem?_sources hunit).symm.trans hsource)
  refine ⟨unit, text, hunit, htext, ?_⟩
  have hsame : unit.source.text = some text := htext
  rwa [hsame] at hslice

theorem Named.exists_name (h : d.Named none) {id name : NodeId} {n : SyntaxNode}
    (hn : d.nodes[id.index]? = some (u, n)) (hname : n.declaredName? = some name) :
    ∃ m, d.nodes[name.index]? = some (u, m) ∧ m.isIdentifier ∧ n.span.encloses m.span := by
  obtain ⟨label, hlabel, hidentifier, hinside⟩ :=
    Labelled.declaration h (Option.some_ne_none _) (getElem?_labels_of_nodes hn) hname
  obtain ⟨m, hm, rfl⟩ := getElem?_labels.mp hlabel
  exact ⟨m, hm, hidentifier, hinside⟩

theorem Named.exists_base (h : d.Named none) {id name base : NodeId} {n : SyntaxNode}
    (hn : d.nodes[id.index]? = some (u, n)) (hparts : n.classParts? = some (name, some base)) :
    ∃ v m, d.nodes[base.index]? = some (v, m) ∧ m.isIdentifier := by
  obtain ⟨v, label, hlabel, hidentifier⟩ := Labelled.base h (getElem?_labels_of_nodes hn) hparts
  obtain ⟨m, hm, rfl⟩ := getElem?_labels.mp hlabel
  exact ⟨v, m, hm, hidentifier⟩

theorem IsOf.exists_unit (h : IsOf d.texts u heading) :
    ∃ unit, d.units[u.index]? = some unit ∧ heading.containingFile = unit.path ∧
      ∀ span, heading.nameSpan = some span → d.HasText u span heading.name := by
  obtain ⟨text?, htexts, hspan⟩ := h
  rw [Draft.texts, List.getElem?_map] at htexts
  obtain ⟨unit, hunit, heq⟩ := Option.map_eq_some_iff.mp htexts
  obtain ⟨hpath, rfl⟩ := Prod.mk.inj heq
  refine ⟨unit, hunit, hpath.symm, ?_⟩
  intro span hsome
  obtain ⟨text, htext, hslice⟩ := hspan span hsome
  exact ⟨unit, text, hunit, htext, hslice⟩

theorem getElem?_headings_eq_some {i : Nat} : d.headings[i]? = some heading ↔
    ∃ definition : Definition, d.definitions[i]? = some definition ∧
      definition.heading = heading := by
  rw [Draft.headings, List.getElem?_map, Option.map_eq_some_iff]

/-- Whatever the steps are, as long as those that add a node as they are told add no identifiers and
no declarations: the names that the draft records are those in the texts. -/
theorem recorded_names_match {steps : List Step} {found : List Found}
    (hrun : run {} steps = (found, .ok d))
    (hkinds : ∀ step ∈ steps, ∀ kind ∈ step.givenKind?, kind.isNameless) :
    NamesMatch steps found d := by
  obtain ⟨hnamed, haccounts⟩ := named_and_accounts_of_run named_nil hkinds hrun
  have hforest : d.IsForest := isForest_of_build (congrArg Prod.snd hrun)
  constructor
  case identifier => exact hnamed.hasText hforest
  case once =>
    intro first second u m n hm hn hidentifier hidentifier' hspan
    have hsame : first.index = second.index := Labelled.once hnamed (getElem?_labels_of_nodes hm)
      (getElem?_labels_of_nodes hn) hidentifier hidentifier' hspan
    obtain ⟨i⟩ := first
    obtain ⟨j⟩ := second
    exact congrArg NodeId.mk hsame
  case definition =>
    intro i step u hstep hu
    obtain ⟨id, heading, hfound, hheading, hisOf, hpackage⟩ := haccounts.declares hstep hu
    obtain ⟨definition, hdefinition, rfl⟩ := getElem?_headings_eq_some.mp hheading
    obtain ⟨unit, hunit, hfile, htext⟩ := hisOf.exists_unit
    exact ⟨id, definition, unit, hfound, hdefinition, hunit, hfile, hpackage, htext⟩
  case named =>
    intro id definition span hdefinition hspan
    have hheading := getElem?_headings_eq_some.mpr ⟨definition, hdefinition, rfl⟩
    have hplace : definition.heading.nameSpan = some span := hspan
    rcases haccounts.named hheading (hplace ▸ Option.some_ne_none span) with hold | hanswer
    · cases hold
    · obtain ⟨i, step, u, hstep, hu, hfound⟩ := hanswer
      obtain ⟨_, _, hfound', hheading', hisOf, -⟩ := haccounts.declares hstep hu
      cases hfound.symm.trans hfound'
      cases hheading.symm.trans hheading'
      obtain ⟨-, -, -, htext⟩ := hisOf.exists_unit
      exact ⟨i, step, u, hstep, hu, hfound, htext span hplace⟩
  case declaration => exact hnamed.exists_name
  case base => exact hnamed.exists_base
  case complete =>
    intro hlength id name u n hn
    have hnone : d.nodes[placeholder.index]? = none := List.getElem?_eq_none hlength
    constructor
    · intro hname
      obtain ⟨m, hm, -⟩ := hnamed.exists_name hn hname
      exact absurd (hnone.symm.trans hm) (Option.some_ne_none _).symm
    · intro hparts
      obtain ⟨v, m, hm, -⟩ := hnamed.exists_base hn hparts
      exact absurd (hnone.symm.trans hm) (Option.some_ne_none _).symm

namespace NameSample

/-! All definitions that have a place of their name, with names outside of ASCII, a class that
extends itself, a name that is bound a second time, and a node that goes beyond the text. Some
definitions are searched for in a unit that their owner is not in. -/

def steps : List Step :=
  [.script ⟨"/p/A.as"⟩ "package ж; class A extends A \x7b\x7d", .package ⟨0⟩ "ж",
    .classDecl ⟨0⟩ (some ⟨0⟩) "A", .reference ⟨0⟩ "A" 0 none, .extend ⟨0⟩ ⟨1⟩ ⟨1⟩,
    .script ⟨"/p/B.as"⟩ "/* A.as */  function A() \x7b ; ; \x7d", .constructor ⟨1⟩ ⟨1⟩,
    .script ⟨"/p/C.as"⟩ "function f() \x7b\x7d", .method ⟨2⟩ ⟨0⟩ "f",
    .script ⟨"/p/D.as"⟩ "private var x: A", .field ⟨3⟩ ⟨0⟩ "x",
    .script ⟨"/p/E.as"⟩ "function g() \x7b\x7d", .localFunction ⟨4⟩ ⟨3⟩ "g",
    .script ⟨"/p/F.as"⟩ "var y = 'éé'; y", .localVariable ⟨5⟩ ⟨3⟩ "y",
    .markup ⟨"/p/M.mxml"⟩ "<a id='é'/>", .markupClass ⟨6⟩ none "M", .idField ⟨6⟩ ⟨7⟩ "é",
    .node ⟨6⟩ (.call true) ⟨0, 99⟩]

def found : List Found :=
  [.unit ⟨0⟩, .definition ⟨0⟩, .definition ⟨1⟩, .node ⟨2⟩, .nothing, .unit ⟨1⟩, .definition ⟨2⟩,
    .unit ⟨2⟩, .definition ⟨3⟩, .unit ⟨3⟩, .definition ⟨4⟩, .unit ⟨4⟩, .definition ⟨5⟩, .unit ⟨5⟩,
    .definition ⟨6⟩, .unit ⟨6⟩, .definition ⟨7⟩, .definition ⟨8⟩, .node ⟨20⟩]

/-- The definitions with the places of their names. -/
def names : List (String × Option Span) :=
  [("ж", some ⟨8, 10⟩), ("A", some ⟨18, 19⟩), ("A", some ⟨21, 22⟩), ("f", some ⟨9, 10⟩),
    ("x", some ⟨12, 13⟩), ("g", some ⟨9, 10⟩), ("y", some ⟨4, 5⟩), ("M", none), ("é", some ⟨7, 9⟩)]

/-- The nodes of the first unit, in which a class extends another node than the one it names. -/
def kinds : List (UnitId × NodeKind × Span) :=
  [(⟨0⟩, .other, ⟨0, 32⟩), (⟨0⟩, .classDecl ⟨2⟩ (some ⟨3⟩), ⟨12, 32⟩),
    (⟨0⟩, .identifier "A", ⟨18, 19⟩), (⟨0⟩, .identifier "A", ⟨28, 29⟩)]

theorem exists_draft : ∃ d, run {} steps = (found, .ok d) ∧
    d.definitions.map (fun definition => (definition.name, definition.nameSpan)) = names ∧
    (d.nodes.take 4).map (fun n => (n.1, n.2.kind, n.2.span)) = kinds := by
  have hfound : (run {} steps).1 = found := by decide +kernel
  have hviews : ((run {} steps).2.toOption.map fun d =>
      (d.definitions.map fun definition => (definition.name, definition.nameSpan),
        (d.nodes.take 4).map fun n => (n.1, n.2.kind, n.2.span))) = some (names, kinds) := by
    decide +kernel
  cases hrun : (run {} steps).2 with
  | error e =>
      rw [hrun] at hviews
      cases hviews
  | ok d =>
      rw [hrun] at hviews
      obtain ⟨hnames, hkinds⟩ := Prod.mk.inj (Option.some.inj hviews)
      exact ⟨d, Prod.ext hfound hrun, hnames, hkinds⟩

end NameSample

theorem recorded_names_match_of_sample :
    ∃ d, run {} NameSample.steps = (NameSample.found, .ok d) ∧
      d.definitions.map (fun definition => (definition.name, definition.nameSpan)) =
        NameSample.names ∧
      (d.nodes.take 4).map (fun n => (n.1, n.2.kind, n.2.span)) = NameSample.kinds ∧
      (∀ step ∈ NameSample.steps, ∀ kind ∈ step.givenKind?, kind.isNameless) ∧
      NamesMatch NameSample.steps NameSample.found d := by
  obtain ⟨d, hrun, hnames, hnodes⟩ := NameSample.exists_draft
  have hkinds : ∀ step ∈ NameSample.steps, ∀ kind ∈ step.givenKind?, kind.isNameless := by
    decide
  exact ⟨d, hrun, hnames, hnodes, hkinds, recorded_names_match hrun hkinds⟩

end SymbolNav.Draft
