import SymbolNav.Navigation.Definition
import SymbolNav.Proofs.Text.Positions
import SymbolNav.Rename.Request

/-!
# Requests in included files

An included file has no unit of its own. A place in it is shifted into the text of the including
file, and there the shifted offset has a position of its own: both places are located alike, unless
the including text has more lines than can be counted. A request that looks at the location only
cannot tell them apart. Renaming is such a request, and so is going to the definition of a node. A
reference in a documentation comment is looked up by the position of the request as well, although
the tags of the comment stand where the including text has them; the answers then agree as far as
both positions happen to refer to the same places.
-/

namespace SymbolNav

variable {p : Project} {ctx : Context} {path : Path} {splice : IncludeSplice} {own text : String}
variable {located : Located} {position position' : Position} {document document' : SourceDocument}

namespace Project

/-- Where the definition that a comment refers to at a position is declared. -/
def referencePlaces (p : Project) (u : UnitId) (comment : DocComment) (position : Position) :
    List Location :=
  p.locationsOf ((p.docReference? u comment position).map (·.1))

/-- What is located through an include lies in the unit of the including file. -/
theorem unitForPath?_of_locate? {dialect : Dialect} (hsplice : p.includeSplice? path = some splice)
    (h : p.locate? ⟨path, dialect, own⟩ position = some located) :
    p.unitForPath? splice.parent = some located.unit := by
  obtain ⟨offset, -, h⟩ := Option.bind_eq_some_iff.mp h
  simp only [hsplice] at h
  obtain ⟨effective, -, h⟩ := Option.bind_eq_some_iff.mp h
  obtain ⟨unit, hunit, h⟩ := Option.bind_eq_some_iff.mp h
  cases h
  exact hunit

/-- The position of a shifted offset is located where the place in the included file is. -/
theorem locate?_of_include {dialect : Dialect} (hsplice : p.includeSplice? path = some splice)
    (hplain : p.includeSplice? splice.parent = none)
    (h : p.locate? ⟨path, dialect, own⟩ position = some located)
    (hboundary : Text.IsBoundary text.toList located.offset)
    (hwhole : ¬ Text.SplitsLineEnd text.toList located.offset)
    (hfits : Text.FitsEditor text.toList) :
    ∃ place, Text.position? text.toList located.offset = some place ∧
      p.locate? ⟨splice.parent, dialect, text⟩ place = some located := by
  have hunit := unitForPath?_of_locate? hsplice h
  obtain ⟨front, back, hcut⟩ := Text.isBoundary_iff.mp hboundary
  refine ⟨Position.after ⟨0, 0⟩ front, hcut.position?_of_fits hfits, ?_⟩
  simp [locate?, hcut.offset?_after hwhole, hplain, hunit]

end Project

namespace Context

/-- Renaming looks at a document and a position only to locate them. -/
theorem rename_eq_of_locate?_eq {newName : String} (hdialect : document.dialect = document'.dialect)
    (h : ctx.project.locate? document position = ctx.project.locate? document' position') :
    ctx.rename document position newName = ctx.rename document' position' newName := by
  unfold rename
  rw [hdialect, h]

theorem definition_of_locate? (hscript : document.dialect = .script)
    (h : ctx.project.locate? document position = some located) :
    ctx.definition document position =
      if ctx.cancelled then .error .cancelled else ctx.scriptDefinition located position := by
  unfold definition checkpoint
  cases ctx.cancelled with
  | true => rfl
  | false =>
      rw [h, hscript]
      rfl

/-- In a comment the position of the request decides what is referred to. -/
theorem targets_scriptDefinition {index : Nat} {comment : DocComment}
    (hrunning : ctx.cancelled = false)
    (h : ctx.project.offsetTarget located.unit located.offset = .ok (.docComment index comment)) :
    (ctx.scriptDefinition located position).map DefinitionAnswer.targets =
      .ok (ctx.project.referencePlaces located.unit comment position) := by
  rw [scriptDefinition, h, Project.referencePlaces]
  cases hfound : ctx.project.docReference? located.unit comment position with
  | none => simp [bind, Except.bind, hfound, Except.map, DefinitionAnswer.nothing,
      DefinitionAnswer.targets, Project.locationsOf]
  | some found =>
      obtain ⟨target, origin⟩ := found
      simp [bind, Except.bind, hfound, checkpoint, hrunning, Except.map, DefinitionAnswer.targets,
        Function.comp_def]

/-- Outside of comments the position of the request makes no difference. -/
theorem scriptDefinition_eq_of_not_comment
    (h : ∀ index comment, ctx.project.offsetTarget located.unit located.offset ≠
      .ok (.docComment index comment)) :
    ctx.scriptDefinition located position = ctx.scriptDefinition located position' := by
  unfold scriptDefinition
  cases hplace : ctx.project.offsetTarget located.unit located.offset with
  | error e => rfl
  | ok place =>
      cases place with
      | docComment index comment => exact absurd hplace (h index comment)
      | node id => rfl
      | nothing => rfl

end Context

namespace IncludeSample

def partText : String := "/**\n * @see Dot\n * no link\n */\nvar d:Dot;"

def mainText : String :=
  "include\r\n/**\n * @see Dot\n * no link\n */\nvar d:Dot;\nclass Dot {}"

/-- The comment of the included part. Its tag stands on the second line of the part, which is the
third line of the text that includes it. -/
def comment : DocComment := ⟨⟨9, 39⟩, [⟨"see", " Dot", 2, 3, 2, 11⟩]⟩

def partSplice : IncludeSplice := ⟨⟨"/p/Main.as"⟩, [⟨0, 9⟩]⟩

def snapshot : Snapshot where
  units := [⟨⟨"/p/Main.as"⟩, .script, some mainText, some ⟨0⟩, .ready [⟨0⟩], none, [comment], none⟩]
  nodes := [⟨.other, ⟨0, 63⟩, none, [⟨1⟩, ⟨2⟩]⟩, ⟨.identifier "Dot", ⟨46, 49⟩, some ⟨0⟩, []⟩,
    ⟨.identifier "Dot", ⟨57, 60⟩, some ⟨0⟩, []⟩]
  definitions := [⟨"", "", .package [⟨1⟩], .pub, ⟨"/p/Main.as"⟩, none, none⟩,
    ⟨"Dot", "Dot", .classType none [], .pub, ⟨"/p/Main.as"⟩, some ⟨0⟩, some ⟨57, 60⟩⟩]
  bindings := [⟨⟨1⟩, ⟨1⟩⟩, ⟨⟨2⟩, ⟨1⟩⟩]
  includes := [⟨⟨"/p/part.as"⟩, partSplice⟩]

def context : Context where
  project := .ofSnapshot {} snapshot

def part : SourceDocument := ⟨⟨"/p/part.as"⟩, .script, partText⟩

def main : SourceDocument := ⟨⟨"/p/Main.as"⟩, .script, mainText⟩

/-- Where the class is declared. -/
def dotPlace : Location := ⟨"file:///p/Main.as", ⟨⟨6, 6⟩, ⟨6, 9⟩⟩⟩

theorem includeSplice?_part : context.project.includeSplice? part.path = some partSplice := rfl

theorem fitsEditor_mainText : Text.FitsEditor mainText.toList :=
  Text.fitsEditor_of_utf16Length (by decide)

end IncludeSample

namespace FarIncludeSample

/-! A part is included behind a line feed for each line that can be counted. -/

def partSplice : IncludeSplice := ⟨⟨"/p/Main.as"⟩, [⟨0, columnLimit⟩]⟩

noncomputable def snapshot : Snapshot where
  units := [⟨⟨"/p/Main.as"⟩, .script, some FarSample.text, some ⟨0⟩, .ready [], none, [], none⟩]
  nodes := [⟨.identifier "a", ⟨columnLimit, columnLimit + 1⟩, none, []⟩]
  includes := [⟨⟨"/p/part.as"⟩, partSplice⟩]

noncomputable def context : Context where
  project := .ofSnapshot {} snapshot

def part : SourceDocument := ⟨⟨"/p/part.as"⟩, .script, "a"⟩

noncomputable def main : SourceDocument := ⟨⟨"/p/Main.as"⟩, .script, FarSample.text⟩

/-- An empty script in place of the including one. Its start is located alike. -/
def shortMain : SourceDocument := ⟨⟨"/p/Main.as"⟩, .script, ""⟩

theorem locate?_main :
    context.project.locate? main ⟨0, 0⟩ = context.project.locate? shortMain ⟨0, 0⟩ := by
  have hoffset : Text.offset? FarSample.text.toList ⟨0, 0⟩ = some 0 := by
    rw [FarSample.toList_text]
    exact Text.offset?_lineFeeds ['a'] 0
  rw [Project.locate?, main, hoffset]
  rfl

end FarIncludeSample

namespace Context

/-- Included files are transparent for renaming. A request at a place of an included script is
answered as the request at the position that the shifted offset has in the including script, as long
as the offset is a boundary of its text that no line end hides, and the lines and columns of the
text can be counted. -/
theorem rename_in_include {newName : String} (hsplice : ctx.project.includeSplice? path = some splice)
    (hplain : ctx.project.includeSplice? splice.parent = none)
    (hlocate : ctx.project.locate? ⟨path, .script, own⟩ position = some located)
    (hboundary : Text.IsBoundary text.toList located.offset)
    (hwhole : ¬ Text.SplitsLineEnd text.toList located.offset)
    (hfits : Text.FitsEditor text.toList) :
    ∃ place, Text.position? text.toList located.offset = some place ∧
      ctx.rename ⟨path, .script, own⟩ position newName =
        ctx.rename ⟨splice.parent, .script, text⟩ place newName := by
  obtain ⟨place, hplace, hsame⟩ :=
    Project.locate?_of_include hsplice hplain hlocate hboundary hwhole hfits
  exact ⟨place, hplace, rename_eq_of_locate?_eq rfl (hlocate.trans hsame.symm)⟩

/-- The class can be renamed from the type that the included part of the sample mentions. -/
theorem rename_in_include_of_sample :
    IncludeSample.context.project.locate? IncludeSample.part ⟨4, 6⟩ = some ⟨⟨0⟩, 46⟩ ∧
      Text.FitsEditor IncludeSample.mainText.toList ∧
      IncludeSample.context.scriptRenameTarget ⟨0⟩ 46 = .ok (.definition ⟨1⟩) ∧
      ∃ place, Text.position? IncludeSample.mainText.toList 46 = some place ∧
        IncludeSample.context.rename IncludeSample.part ⟨4, 6⟩ "Spot" =
          IncludeSample.context.rename IncludeSample.main place "Spot" := by
  have hlocate : IncludeSample.context.project.locate? IncludeSample.part ⟨4, 6⟩ =
      some ⟨⟨0⟩, 46⟩ := rfl
  have hboundary : Text.IsBoundary IncludeSample.mainText.toList 46 := by decide
  have hwhole : ¬ Text.SplitsLineEnd IncludeSample.mainText.toList 46 := by decide
  exact ⟨hlocate, IncludeSample.fitsEditor_mainText, rfl,
    rename_in_include IncludeSample.includeSplice?_part rfl hlocate hboundary hwhole
      IncludeSample.fitsEditor_mainText⟩

/-- The first character of the included part is shifted behind more lines than can be counted. The
name found there is not resolved, but where the position of its offset leads to there is none. -/
theorem rename_misplaced_in_include :
    FarIncludeSample.context.project.includeSplice? FarIncludeSample.part.path =
        some FarIncludeSample.partSplice ∧
      FarIncludeSample.context.project.includeSplice? FarIncludeSample.main.path = none ∧
      FarIncludeSample.context.project.unitForPath? FarIncludeSample.main.path = some ⟨0⟩ ∧
      FarIncludeSample.context.project.text? ⟨0⟩ = some FarSample.text ∧
      FarIncludeSample.context.project.locate? FarIncludeSample.part ⟨0, 0⟩ =
        some ⟨⟨0⟩, columnLimit⟩ ∧
      Text.IsBoundary FarSample.text.toList columnLimit ∧
      ¬ Text.SplitsLineEnd FarSample.text.toList columnLimit ∧
      Text.position? FarSample.text.toList columnLimit = some ⟨0, 0⟩ ∧
      FarIncludeSample.context.rename FarIncludeSample.part ⟨0, 0⟩ "x" = .ok .unresolved ∧
      FarIncludeSample.context.rename FarIncludeSample.main ⟨0, 0⟩ "x" = .ok .noTarget := by
  have hmain : FarIncludeSample.context.rename FarIncludeSample.main ⟨0, 0⟩ "x" =
      FarIncludeSample.context.rename FarIncludeSample.shortMain ⟨0, 0⟩ "x" :=
    rename_eq_of_locate?_eq rfl FarIncludeSample.locate?_main
  exact ⟨rfl, rfl, rfl, rfl, rfl, FarSample.isBoundary_start, FarSample.not_splitsLineEnd_start,
    FarSample.position?_start, rfl, hmain.trans rfl⟩

/-- Going to a definition in an included script leads to the same places as in the including script,
except in documentation comments: there it does so exactly if the comment refers to the same places
at the position of the request and at the position in the including text. -/
theorem definition_in_include_iff (hsplice : ctx.project.includeSplice? path = some splice)
    (hplain : ctx.project.includeSplice? splice.parent = none)
    (hlocate : ctx.project.locate? ⟨path, .script, own⟩ position = some located)
    (hboundary : Text.IsBoundary text.toList located.offset)
    (hwhole : ¬ Text.SplitsLineEnd text.toList located.offset)
    (hfits : Text.FitsEditor text.toList) :
    ∃ place, Text.position? text.toList located.offset = some place ∧
      ((ctx.definition ⟨path, .script, own⟩ position).map DefinitionAnswer.targets =
          (ctx.definition ⟨splice.parent, .script, text⟩ place).map DefinitionAnswer.targets ↔
        ∀ index comment, ctx.cancelled = false →
          ctx.project.offsetTarget located.unit located.offset = .ok (.docComment index comment) →
          ctx.project.referencePlaces located.unit comment position =
            ctx.project.referencePlaces located.unit comment place) := by
  obtain ⟨place, hplace, hsame⟩ :=
    Project.locate?_of_include hsplice hplain hlocate hboundary hwhole hfits
  refine ⟨place, hplace, ?_⟩
  rw [definition_of_locate? rfl hlocate, definition_of_locate? rfl hsame]
  cases hrunning : ctx.cancelled with
  | true => simp
  | false =>
      simp only [Bool.false_eq_true, if_false, forall_const]
      by_cases hcomment : ∃ index comment, ctx.project.offsetTarget located.unit located.offset =
          .ok (.docComment index comment)
      · obtain ⟨index, comment, hcomment⟩ := hcomment
        rw [targets_scriptDefinition hrunning hcomment, targets_scriptDefinition hrunning hcomment]
        simp [hcomment]
      · have hnone : ∀ index comment, ctx.project.offsetTarget located.unit located.offset ≠
            .ok (.docComment index comment) := by simpa using hcomment
        rw [scriptDefinition_eq_of_not_comment hnone]
        exact iff_of_true rfl fun index comment h => absurd h (hnone index comment)

/-- The tag of the included comment, asked for in the part itself. -/
theorem definition_in_include_iff_of_sample :
    IncludeSample.context.project.locate? IncludeSample.part ⟨1, 9⟩ = some ⟨⟨0⟩, 22⟩ ∧
      Text.FitsEditor IncludeSample.mainText.toList ∧
      ∃ place, Text.position? IncludeSample.mainText.toList 22 = some place ∧
        ((IncludeSample.context.definition IncludeSample.part ⟨1, 9⟩).map
              DefinitionAnswer.targets =
            (IncludeSample.context.definition IncludeSample.main place).map
              DefinitionAnswer.targets ↔
          ∀ index comment, IncludeSample.context.cancelled = false →
            IncludeSample.context.project.offsetTarget ⟨0⟩ 22 = .ok (.docComment index comment) →
            IncludeSample.context.project.referencePlaces ⟨0⟩ comment ⟨1, 9⟩ =
              IncludeSample.context.project.referencePlaces ⟨0⟩ comment place) := by
  have hlocate : IncludeSample.context.project.locate? IncludeSample.part ⟨1, 9⟩ =
      some ⟨⟨0⟩, 22⟩ := rfl
  have hboundary : Text.IsBoundary IncludeSample.mainText.toList 22 := by decide
  have hwhole : ¬ Text.SplitsLineEnd IncludeSample.mainText.toList 22 := by decide
  exact ⟨hlocate, IncludeSample.fitsEditor_mainText,
    definition_in_include_iff IncludeSample.includeSplice?_part rfl hlocate hboundary hwhole
      IncludeSample.fitsEditor_mainText⟩

/-- In the included comment the answers differ both ways. The tag is not found where it stands in
the part, and it is found one line further down, where the part has no tag. -/
theorem definition_misplaced_in_include :
    IncludeSample.context.project.locate? IncludeSample.part ⟨1, 9⟩ = some ⟨⟨0⟩, 22⟩ ∧
      Text.position? IncludeSample.mainText.toList 22 = some ⟨2, 9⟩ ∧
      (IncludeSample.context.definition IncludeSample.part ⟨1, 9⟩).map DefinitionAnswer.targets =
        .ok [] ∧
      (IncludeSample.context.definition IncludeSample.main ⟨2, 9⟩).map DefinitionAnswer.targets =
        .ok [IncludeSample.dotPlace] ∧
      IncludeSample.context.project.locate? IncludeSample.part ⟨2, 6⟩ = some ⟨⟨0⟩, 31⟩ ∧
      Text.position? IncludeSample.mainText.toList 31 = some ⟨3, 6⟩ ∧
      (IncludeSample.context.definition IncludeSample.part ⟨2, 6⟩).map DefinitionAnswer.targets =
        .ok [IncludeSample.dotPlace] ∧
      (IncludeSample.context.definition IncludeSample.main ⟨3, 6⟩).map DefinitionAnswer.targets =
        .ok [] :=
  ⟨rfl, rfl, rfl, rfl, rfl, rfl, rfl, rfl⟩

end Context

end SymbolNav
