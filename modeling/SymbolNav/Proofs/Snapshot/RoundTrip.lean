import SymbolNav.Proofs.Json.Decode
import SymbolNav.Proofs.Json.RoundTrip
import SymbolNav.Proofs.Snapshot.Range
import SymbolNav.Snapshot.Writer

/-!
# Reading back a snapshot

A snapshot whose numbers are in range is read back from its text. Each record is read back from its
members, with one lemma for each. A node, a definition and an include share their object with a kind
or splice, so for them the names have to be told apart; the kind and the splice are read back from
what is left, which also has to be kept meanwhile.
-/

namespace SymbolNav

open Json (ofNat isKept isKept_int isKept_list isKept_option isKept_record isKept_text list?_list
  nullable?_option shared?_record)

/-! ### Handles, paths and names -/

theorem Json.index?_ofNat {n : Nat} (h : n < indexLimit) : Json.index? (ofNat n) = some n :=
  nat?_ofNat h

theorem Json.offset?_ofNat {n : Nat} (h : n < offsetLimit) : Json.offset? (ofNat n) = some n :=
  nat?_ofNat h

theorem UnitId.ofJson?_toJson {id : UnitId} (h : id.isInRange) :
    UnitId.ofJson? id.toJson = some id := by
  rw [toJson, ofJson?, Json.index?_ofNat (of_decide_eq_true h), Option.map_some]

theorem NodeId.ofJson?_toJson {id : NodeId} (h : id.isInRange) :
    NodeId.ofJson? id.toJson = some id := by
  rw [toJson, ofJson?, Json.index?_ofNat (of_decide_eq_true h), Option.map_some]

theorem DefId.ofJson?_toJson {id : DefId} (h : id.isInRange) :
    DefId.ofJson? id.toJson = some id := by
  rw [toJson, ofJson?, Json.index?_ofNat (of_decide_eq_true h), Option.map_some]

theorem TagId.ofJson?_toJson {id : TagId} (h : id.isInRange) :
    TagId.ofJson? id.toJson = some id := by
  rw [toJson, ofJson?, Json.index?_ofNat (of_decide_eq_true h), Option.map_some]

theorem Json.isKept_ofNat {n : Nat} (h : n < offsetLimit) (depth : Nat) : isKept depth (ofNat n) :=
  isKept_int (n := n) h depth

theorem indexLimit_le_offsetLimit : indexLimit ≤ offsetLimit := by decide

theorem NodeId.isKept_toJson {id : NodeId} {depth : Nat} (h : id.isInRange) :
    id.toJson.isKept depth :=
  Json.isKept_ofNat (Nat.lt_of_lt_of_le (of_decide_eq_true h) indexLimit_le_offsetLimit) depth

theorem DefId.isKept_toJson {id : DefId} {depth : Nat} (h : id.isInRange) :
    id.toJson.isKept depth :=
  Json.isKept_ofNat (Nat.lt_of_lt_of_le (of_decide_eq_true h) indexLimit_le_offsetLimit) depth

@[simp] theorem Path.ofJson?_toJson (p : Path) : Path.ofJson? p.toJson = some p := rfl

@[simp] theorem Keyword.ofJson?_name (k : Keyword) : Keyword.ofJson? (.text k.name) = some k := by
  cases k <;> rfl

@[simp] theorem Visibility.ofJson?_name (v : Visibility) :
    Visibility.ofJson? (.text v.name) = some v := by
  cases v <;> rfl

@[simp] theorem VariableClass.ofJson?_name (c : VariableClass) :
    VariableClass.ofJson? (.text c.name) = some c := by
  cases c <;> rfl

@[simp] theorem FunctionClass.ofJson?_name (c : FunctionClass) :
    FunctionClass.ofJson? (.text c.name) = some c := by
  cases c <;> rfl

@[simp] theorem TagRole.ofJson?_name (r : TagRole) : TagRole.ofJson? (.text r.name) = some r := by
  cases r <;> rfl

@[simp] theorem UnitKind.ofJson?_name (k : UnitKind) :
    UnitKind.ofJson? (.text k.name) = some k := by
  cases k <;> rfl

theorem Span.ofJson?_toJson {s : Span} (h : s.isInRange) : Span.ofJson? s.toJson = some s := by
  simp only [isInRange, Bool.and_eq_true, decide_eq_true_eq] at h
  simp [toJson, ofJson?, Json.offset?_ofNat, h]

/-! ### Nodes -/

namespace NodeKind

theorem ofRecord?_toMembers {k : NodeKind} (h : k.isInRange) :
    ofRecord? ⟨k.toMembers⟩ = some k := by
  cases k with
  | classDecl name base =>
      obtain ⟨hname, hbase⟩ : name.isInRange ∧ base.all NodeId.isInRange := by
        simpa [isInRange] using h
      simp [ofRecord?, toMembers, Record.select?_of_nodup, readers, NodeId.ofJson?_toJson hname,
        nullable?_option NodeId.ofJson?_toJson rfl hbase]
  | declaration name =>
      simp [ofRecord?, toMembers, Record.select?_of_nodup, readers, NodeId.ofJson?_toJson h]
  | memberAccess left right =>
      obtain ⟨hleft, hright⟩ : left.isInRange ∧ right.isInRange := by simpa [isInRange] using h
      simp [ofRecord?, toMembers, Record.select?_of_nodup, readers, NodeId.ofJson?_toJson hleft,
        NodeId.ofJson?_toJson hright]
  | identifier _ | keyword _ | call _ | styleBlock | other =>
      simp [ofRecord?, toMembers, Record.select?_of_nodup, readers]

theorem isKept_of_mem_toMembers {k : NodeKind} (h : k.isInRange) {depth : Nat} :
    ∀ m ∈ k.toMembers, m.2.isKept depth := by
  cases k with
  | classDecl name base =>
      obtain ⟨hname, hbase⟩ : name.isInRange ∧ base.all NodeId.isInRange := by
        simpa [isInRange] using h
      simp [toMembers, NodeId.isKept_toJson hname, isKept_option NodeId.isKept_toJson hbase]
  | declaration name => simp [toMembers, NodeId.isKept_toJson h]
  | memberAccess left right =>
      obtain ⟨hleft, hright⟩ : left.isInRange ∧ right.isInRange := by simpa [isInRange] using h
      simp [toMembers, NodeId.isKept_toJson hleft, NodeId.isKept_toJson hright]
  | identifier _ | keyword _ | call _ | styleBlock | other => simp [toMembers]

end NodeKind

theorem SyntaxNode.ofJson?_toJson {n : SyntaxNode} (h : n.isInRange) :
    SyntaxNode.ofJson? n.toJson = some n := by
  simp only [isInRange, Bool.and_eq_true, and_assoc] at h
  obtain ⟨hkind, hspan, hparent, hchildren⟩ := h
  have hnames : ∀ m ∈ n.kind.toMembers, m.1 ∉ ["span", "parent", "children"] := by
    cases n.kind <;> simp [NodeKind.toMembers]
  have hshared : n.toJson.shared? (nestingLimit - 3) ["span", "parent", "children"] =
      some (⟨[("span", n.span.toJson), ("parent", .option NodeId.toJson n.parent),
        ("children", .list NodeId.toJson n.children)]⟩, ⟨n.kind.toMembers⟩) :=
    shared?_record [] n.kind.toMembers _ (by simp) hnames (by simp)
      (NodeKind.isKept_of_mem_toMembers hkind)
  simp [ofJson?, hshared, NodeKind.ofRecord?_toMembers hkind, Span.ofJson?_toJson hspan,
    nullable?_option NodeId.ofJson?_toJson rfl hparent,
    list?_list NodeId.ofJson?_toJson hchildren]

/-! ### Definitions -/

namespace DefinitionKind

theorem ofRecord?_toMembers {k : DefinitionKind} (h : k.isInRange) :
    ofRecord? ⟨k.toMembers⟩ = some k := by
  cases k with
  | package members | interfaceType members =>
      simp [ofRecord?, toMembers, Record.select?_of_nodup, readers,
        list?_list DefId.ofJson?_toJson h]
  | classType constructor members =>
      obtain ⟨hconstructor, hmembers⟩ :
          constructor.all DefId.isInRange ∧ members.all DefId.isInRange := by
        simpa [isInRange] using h
      simp [ofRecord?, toMembers, Record.select?_of_nodup, readers,
        nullable?_option DefId.ofJson?_toJson rfl hconstructor,
        list?_list DefId.ofJson?_toJson hmembers]
  | function _ _ | var _ => simp [ofRecord?, toMembers, Record.select?_of_nodup, readers]

theorem isKept_of_mem_toMembers {k : DefinitionKind} (h : k.isInRange) {depth : Nat} :
    ∀ m ∈ k.toMembers, m.2.isKept (depth + 1) := by
  cases k with
  | package members | interfaceType members =>
      simp [toMembers, isKept_list DefId.isKept_toJson h]
  | classType constructor members =>
      obtain ⟨hconstructor, hmembers⟩ :
          constructor.all DefId.isInRange ∧ members.all DefId.isInRange := by
        simpa [isInRange] using h
      simp [toMembers, isKept_option DefId.isKept_toJson hconstructor,
        isKept_list DefId.isKept_toJson hmembers]
  | function _ _ | var _ => simp [toMembers]

end DefinitionKind

theorem Definition.ofJson?_toJson {d : Definition} (h : d.isInRange) :
    Definition.ofJson? d.toJson = some d := by
  simp only [isInRange, Bool.and_eq_true, and_assoc] at h
  obtain ⟨hkind, hparent, hspan⟩ := h
  have hnames : ∀ m ∈ d.kind.toMembers, m.1 ∉
      ["name", "qualified_name", "visibility", "containing_file", "parent", "name_span"] := by
    cases d.kind <;> simp [DefinitionKind.toMembers]
  have hshared : d.toJson.shared? (nestingLimit - 3)
      ["name", "qualified_name", "visibility", "containing_file", "parent", "name_span"] =
        some (⟨[("name", .text d.name), ("qualified_name", .text d.qualifiedName),
          ("visibility", .text d.visibility.name), ("containing_file", d.containingFile.toJson),
          ("parent", .option DefId.toJson d.parent),
          ("name_span", .option Span.toJson d.nameSpan)]⟩, ⟨d.kind.toMembers⟩) :=
    shared?_record [_, _] d.kind.toMembers [_, _, _, _] (by simp) hnames (by simp)
      (DefinitionKind.isKept_of_mem_toMembers hkind)
  simp [ofJson?, hshared, DefinitionKind.ofRecord?_toMembers hkind,
    nullable?_option DefId.ofJson?_toJson rfl hparent,
    nullable?_option Span.ofJson?_toJson rfl hspan]

/-! ### Documentation comments and markup -/

theorem DocTag.ofJson?_toJson {t : DocTag} (h : t.isInRange) :
    DocTag.ofJson? t.toJson = some t := by
  simp only [isInRange, Bool.and_eq_true, decide_eq_true_eq] at h
  simp [toJson, ofJson?, Json.index?_ofNat, h]

theorem DocComment.ofJson?_toJson {c : DocComment} (h : c.isInRange) :
    DocComment.ofJson? c.toJson = some c := by
  simp only [isInRange, Bool.and_eq_true] at h
  obtain ⟨hspan, htags⟩ := h
  simp [toJson, ofJson?, Span.ofJson?_toJson hspan, list?_list DocTag.ofJson?_toJson htags]

@[simp] theorem XmlName.ofJson?_toJson (n : XmlName) : XmlName.ofJson? n.toJson = some n := by
  simp [toJson, ofJson?]

theorem MarkupAttribute.ofJson?_toJson {a : MarkupAttribute} (h : a.isInRange) :
    MarkupAttribute.ofJson? a.toJson = some a := by
  simp only [isInRange, Bool.and_eq_true] at h
  obtain ⟨hname, hvalue⟩ := h
  simp [toJson, ofJson?, Span.ofJson?_toJson hname,
    nullable?_option Span.ofJson?_toJson rfl hvalue]

theorem MarkupTag.ofJson?_toJson {t : MarkupTag} (h : t.isInRange) :
    MarkupTag.ofJson? t.toJson = some t := by
  simp only [isInRange, Bool.and_eq_true, and_assoc] at h
  obtain ⟨hspan, hopen, hname, hclose, hattributes, hregions, hparent, hchildren⟩ := h
  simp [toJson, ofJson?, Span.ofJson?_toJson hspan, Span.ofJson?_toJson hopen,
    Span.ofJson?_toJson hname, nullable?_option Span.ofJson?_toJson rfl hclose,
    list?_list MarkupAttribute.ofJson?_toJson hattributes,
    list?_list Span.ofJson?_toJson hregions, nullable?_option TagId.ofJson?_toJson rfl hparent,
    list?_list TagId.ofJson?_toJson hchildren]

theorem MarkupDocument.ofJson?_toJson {m : MarkupDocument} (h : m.isInRange) :
    MarkupDocument.ofJson? m.toJson = some m := by
  simp only [isInRange, Bool.and_eq_true] at h
  obtain ⟨htags, hroot⟩ := h
  simp [toJson, ofJson?, list?_list MarkupTag.ofJson?_toJson htags,
    nullable?_option TagId.ofJson?_toJson rfl hroot]

/-! ### Includes -/

theorem OffsetCue.ofJson?_toJson {c : OffsetCue} (h : c.isInRange) :
    OffsetCue.ofJson? c.toJson = some c := by
  simp only [isInRange, Bool.and_eq_true, decide_eq_true_eq] at h
  obtain ⟨⟨hstart, hlow⟩, hhigh⟩ := h
  simp [toJson, ofJson?, Json.offset?_ofNat hstart, Json.int64?_int hlow hhigh]

theorem OffsetCue.isKept_toJson {c : OffsetCue} {depth : Nat} (h : c.isInRange) :
    c.toJson.isKept (depth + 1) := by
  simp only [isInRange, Bool.and_eq_true, decide_eq_true_eq] at h
  obtain ⟨⟨hstart, hlow⟩, hhigh⟩ := h
  have hadjustment : c.adjustment.natAbs < Json.Scaled.significandLimit := by
    have hlimit : Json.Scaled.significandLimit = 2 * Nat.pow 2 63 := by decide
    have hpos : 0 < Nat.pow 2 63 := by decide
    simp only [Int.ofNat_eq_natCast] at hlow hhigh
    omega
  refine isKept_record ?_
  simp only [List.forall_mem_cons]
  exact ⟨Json.isKept_ofNat hstart depth, isKept_int hadjustment depth, List.forall_mem_nil _⟩

theorem IncludeSnapshot.ofJson?_toJson {i : IncludeSnapshot} (h : i.isInRange) :
    IncludeSnapshot.ofJson? i.toJson = some i := by
  have hkept : ∀ m ∈ i.splice.toMembers, m.2.isKept (nestingLimit - 3) := by
    simp only [IncludeSplice.toMembers, List.forall_mem_cons]
    exact ⟨isKept_text _ _, isKept_list OffsetCue.isKept_toJson h, List.forall_mem_nil _⟩
  have hshared : i.toJson.shared? (nestingLimit - 3) ["path"] =
      some (⟨[("path", i.path.toJson)]⟩, ⟨i.splice.toMembers⟩) :=
    shared?_record [_] i.splice.toMembers [] (by simp) (by simp [IncludeSplice.toMembers])
      (by simp) hkept
  simp [ofJson?, hshared, IncludeSplice.toMembers, Record.select?_of_nodup,
    list?_list OffsetCue.ofJson?_toJson h]

/-! ### Units -/

namespace FileScope

/-- A scope with one field next to its tag is read by the tag. -/
theorem ofJson?_record {status field : String} {value : Json} (hne : field ≠ "status")
    (hkept : value.isKept (nestingLimit - 4)) :
    ofJson? (.record [("status", .text status), (field, value)]) =
      ((Json.text status).tag? false readers).bind fun reader => reader.2 ⟨[(field, value)]⟩ := by
  have hshared : (Json.record [("status", .text status), (field, value)]).shared?
      (nestingLimit - 4) ["status"] =
        some (⟨[("status", .text status)]⟩, ⟨[(field, value)]⟩) :=
    shared?_record [_] [_] [] (by simp) (by simpa using hne) (by simp) (by simpa using hkept)
  simp only [Json.record, List.map_cons, List.map_nil] at hshared ⊢
  simp [ofJson?, hshared, Record.select?_of_nodup]

theorem ofJson?_toJson {f : FileScope} (h : f.isInRange) : ofJson? f.toJson = some f := by
  cases f with
  | ready definitions =>
      have hkept : (Json.list DefId.toJson definitions).isKept (nestingLimit - 4) :=
        isKept_list DefId.isKept_toJson h
      rw [toJson, ofJson?_record (by decide) hkept]
      simp [readers, list?_list DefId.ofJson?_toJson h]
  | failed reason =>
      rw [toJson, ofJson?_record (by decide) (isKept_text reason _)]
      simp [readers]

end FileScope

theorem UnitSnapshot.ofJson?_toJson {u : UnitSnapshot} (h : u.isInRange) :
    UnitSnapshot.ofJson? u.toJson = some u := by
  simp only [isInRange, Bool.and_eq_true, and_assoc] at h
  obtain ⟨hast, hscope, hroot, hcomments, hmarkup⟩ := h
  simp [toJson, ofJson?, nullable?_option NodeId.ofJson?_toJson rfl hast,
    FileScope.ofJson?_toJson hscope, nullable?_option DefId.ofJson?_toJson rfl hroot,
    list?_list DocComment.ofJson?_toJson hcomments,
    nullable?_option MarkupDocument.ofJson?_toJson rfl hmarkup]

/-! ### Snapshots -/

theorem NodeBinding.ofJson?_toJson {b : NodeBinding} (h : b.isInRange) :
    NodeBinding.ofJson? b.toJson = some b := by
  simp only [isInRange, Bool.and_eq_true] at h
  simp [toJson, ofJson?, NodeId.ofJson?_toJson h.1, DefId.ofJson?_toJson h.2]

theorem TagBinding.ofJson?_toJson {b : TagBinding} (h : b.isInRange) :
    TagBinding.ofJson? b.toJson = some b := by
  simp only [isInRange, Bool.and_eq_true, and_assoc] at h
  obtain ⟨hunit, htag, hattribute, hdefinition⟩ := h
  have hread : ∀ {n : Nat}, decide (n < offsetLimit) → Json.offset? (ofNat n) = some n :=
    fun hn => Json.offset?_ofNat (of_decide_eq_true hn)
  simp [toJson, ofJson?, UnitId.ofJson?_toJson hunit, TagId.ofJson?_toJson htag,
    nullable?_option hread rfl hattribute, DefId.ofJson?_toJson hdefinition]

theorem OverrideLink.ofJson?_toJson {l : OverrideLink} (h : l.isInRange) :
    OverrideLink.ofJson? l.toJson = some l := by
  simp only [isInRange, Bool.and_eq_true] at h
  simp [toJson, ofJson?, DefId.ofJson?_toJson h.1, DefId.ofJson?_toJson h.2]

theorem Snapshot.ofJson?_toJson {s : Snapshot} (h : s.isInRange) :
    Snapshot.ofJson? s.toJson = some s := by
  simp only [isInRange, Bool.and_eq_true, and_assoc] at h
  obtain ⟨hunits, hnodes, hdefinitions, hbindings, htags, hoverrides, hincludes⟩ := h
  simp [toJson, ofJson?, list?_list UnitSnapshot.ofJson?_toJson hunits,
    list?_list SyntaxNode.ofJson?_toJson hnodes,
    list?_list Definition.ofJson?_toJson hdefinitions,
    list?_list NodeBinding.ofJson?_toJson hbindings,
    list?_list TagBinding.ofJson?_toJson htags,
    list?_list OverrideLink.ofJson?_toJson hoverrides,
    list?_list IncludeSnapshot.ofJson?_toJson hincludes]

/-! ### Texts -/

theorem SyntaxNode.plain_toJson (n : SyntaxNode) : n.toJson.Plain := by
  rw [toJson]
  cases n.kind <;> simp [NodeKind.toMembers, NodeId.toJson, Span.toJson]

theorem Definition.plain_toJson (d : Definition) : d.toJson.Plain := by
  rw [toJson]
  cases d.kind <;> simp [DefinitionKind.toMembers, DefId.toJson, Span.toJson, Path.toJson]

theorem MarkupDocument.plain_toJson (m : MarkupDocument) : m.toJson.Plain := by
  simp [toJson, MarkupTag.toJson, MarkupAttribute.toJson, XmlName.toJson, Span.toJson,
    TagId.toJson, Path.toJson]

theorem FileScope.plain_toJson (f : FileScope) : f.toJson.Plain := by
  cases f <;> simp [toJson, DefId.toJson]

theorem UnitSnapshot.plain_toJson (u : UnitSnapshot) : u.toJson.Plain := by
  simp [toJson, FileScope.plain_toJson, MarkupDocument.plain_toJson, DocComment.toJson,
    DocTag.toJson, Span.toJson, NodeId.toJson, DefId.toJson, Path.toJson]

theorem Snapshot.plain_toJson (s : Snapshot) : s.toJson.Plain := by
  simp [toJson, UnitSnapshot.plain_toJson, SyntaxNode.plain_toJson, Definition.plain_toJson,
    NodeBinding.toJson, TagBinding.toJson, OverrideLink.toJson, IncludeSnapshot.toJson,
    IncludeSplice.toMembers, OffsetCue.toJson, UnitId.toJson, NodeId.toJson, DefId.toJson,
    TagId.toJson, Path.toJson]

/-- The text of a snapshot is read, and as that snapshot. -/
theorem Snapshot.reads_back_from_text {s : Snapshot} (h : s.isInRange) :
    Snapshot.parse? s.toJson.toText = some s := by
  rw [parse?, s.plain_toJson.parse?_toText, Option.bind_some, ofJson?_toJson h]

/-! ### A snapshot with a record of every kind -/

namespace ReadBackSample

/-- Numbers at the ends of their ranges, handles that dangle, spans that run backwards, and texts
with characters that are escaped or lie outside the basic plane. -/
def snapshot : Snapshot where
  fallback := true
  units := [
    { path := ⟨"/src/a \"b\".as"⟩, kind := .script, text := some "\x00\t\x1f\\\x7fé\u2028𝄞"
      ast := some ⟨4294967295⟩, scope := .ready [⟨0⟩, ⟨4294967295⟩], rootDefinition := none
      docComments := [⟨⟨18446744073709551615, 0⟩, [⟨"see", " #draw()\r\n", 4294967295, 0, 0, 7⟩]⟩]
      markup := none },
    { path := ⟨"C:\\b.mxml"⟩, kind := .markup, text := none, ast := none
      scope := .failed "no \"scope\"\n", rootDefinition := some ⟨1⟩, docComments := []
      markup := some {
        path := ⟨""⟩
        tags := [
          { name := ⟨some "s", "Button"⟩, role := .script, span := ⟨0, 9⟩, openSpan := ⟨0, 3⟩
            nameSpan := ⟨1, 2⟩, closeNameSpan := some ⟨6, 5⟩
            attributes := [⟨"id", ⟨3, 5⟩, some ⟨7, 8⟩, "\x08"⟩, ⟨"", ⟨0, 0⟩, none, "null"⟩]
            scriptRegions := [⟨7, 8⟩], parent := some ⟨3⟩, children := [⟨0⟩, ⟨9⟩] },
          { name := ⟨none, ""⟩, role := .component, span := ⟨0, 0⟩, openSpan := ⟨0, 0⟩
            nameSpan := ⟨0, 0⟩, closeNameSpan := none, attributes := [], scriptRegions := []
            parent := none, children := [] }]
        root := some ⟨0⟩ } },
    { path := ⟨"lib.swc"⟩, kind := .compiled, text := some "", ast := none, scope := .ready []
      rootDefinition := none, docComments := [], markup := some ⟨⟨"lib"⟩, [], none⟩ }]
  nodes := [
    ⟨.identifier "span", ⟨0, 18446744073709551615⟩, none, []⟩,
    ⟨.keyword .super, ⟨0, 4⟩, some ⟨0⟩, [⟨5⟩]⟩,
    ⟨.classDecl ⟨1⟩ (some ⟨4294967295⟩), ⟨1, 1⟩, none, []⟩,
    ⟨.classDecl ⟨1⟩ none, ⟨1, 1⟩, none, []⟩,
    ⟨.declaration ⟨2⟩, ⟨1, 1⟩, none, []⟩,
    ⟨.call true, ⟨1, 1⟩, none, []⟩,
    ⟨.memberAccess ⟨4⟩ ⟨3⟩, ⟨1, 1⟩, none, []⟩,
    ⟨.styleBlock, ⟨1, 1⟩, none, []⟩,
    ⟨.other, ⟨1, 1⟩, none, []⟩]
  definitions := [
    ⟨"p", "p", .package [⟨1⟩], .pub, ⟨"/p.as"⟩, none, none⟩,
    ⟨"C", "p.C", .classType (some ⟨4⟩) [⟨3⟩], .internal, ⟨"/p.as"⟩, some ⟨0⟩, some ⟨3, 4⟩⟩,
    ⟨"I", "p.I", .interfaceType [], .prot, ⟨"/p.as"⟩, some ⟨0⟩, some ⟨8, 2⟩⟩,
    ⟨"kind", "p.C.kind", .function .classMember true, .priv, ⟨"/p.as"⟩, some ⟨1⟩, none⟩,
    ⟨"ñ", "ñ", .var .parameter, .pub, ⟨"/p.as"⟩, some ⟨4294967295⟩, none⟩]
  bindings := [⟨⟨4294967295⟩, ⟨0⟩⟩]
  tagBindings := [⟨⟨1⟩, ⟨0⟩, some 18446744073709551615, ⟨2⟩⟩, ⟨⟨1⟩, ⟨1⟩, none, ⟨2⟩⟩]
  overrides := [⟨⟨3⟩, ⟨3⟩⟩]
  includes := [⟨⟨"part.as"⟩, ⟨⟨"/p.as"⟩,
    [⟨0, -9223372036854775808⟩, ⟨18446744073709551615, 9223372036854775807⟩, ⟨5, -1⟩, ⟨5, 0⟩]⟩⟩]

end ReadBackSample

theorem Snapshot.reads_back_from_text_of_sample :
    ReadBackSample.snapshot.isInRange ∧
      Snapshot.parse? ReadBackSample.snapshot.toJson.toText = some ReadBackSample.snapshot :=
  ⟨by decide, Snapshot.reads_back_from_text (by decide)⟩

end SymbolNav
