import SymbolNav.Proofs.Markup.Nesting
import SymbolNav.Proofs.Requests.Namespaces

/-!
# The tag at an offset

Once no tag is open, the tags of a text nest as `ProperlyNested` says: spans are disjoint or one
lies in the other, and the chains of parents tell which. The search for the tag at an offset goes
from the root to a child that contains it for as long as there is one. Of the tags that contain the
offset each lies in the next, so the one where the search stops is the shortest of all. It is the
only one for that: a child starts behind the start tag of its parent, so it is shorter.
-/

namespace SymbolNav

namespace MarkupDocument

/-- Parents and children agree, and spans nest the way the tags do. -/
structure ProperlyNested (m : MarkupDocument) : Prop where
  links : ∀ {child parent : TagId}, m.parent? child = some parent ↔ m.IsChild parent child
  later : ∀ {child parent : TagId}, m.IsChild parent child → parent.index < child.index
  /-- A tag takes up some room and has its start tag in front. -/
  startTag : ∀ {id : TagId} {tag : MarkupTag}, m.tag? id = some tag →
    tag.span.start < tag.openSpan.stop ∧ tag.openSpan.stop ≤ tag.span.stop
  inside : ∀ {child parent : TagId} {inner outer : MarkupTag}, m.IsChild parent child →
    m.tag? child = some inner → m.tag? parent = some outer →
    outer.openSpan.stop ≤ inner.span.start ∧ inner.span.stop ≤ outer.span.stop
  siblings : ∀ {id : TagId} {tag : MarkupTag}, m.tag? id = some tag →
    tag.children.Pairwise fun first second => ∀ {before after : MarkupTag},
      m.tag? first = some before → m.tag? second = some after →
      before.span.stop ≤ after.span.start
  disjoint_or_nested : ∀ {first second : TagId} {one other : MarkupTag},
    m.tag? first = some one → m.tag? second = some other →
    (one.span.stop ≤ other.span.start ∨ other.span.stop ≤ one.span.start) ∨
      one.span.encloses other.span ∨ other.span.encloses one.span
  encloses_iff : ∀ {id above : TagId} {inner outer : MarkupTag},
    m.tag? id = some inner → m.tag? above = some outer →
    (outer.span.encloses inner.span ↔ m.Above id above)

/-- The tag contains the offset, and every other tag that does so is longer. -/
def IsShortestAt (m : MarkupDocument) (offset : Nat) (id : TagId) : Prop :=
  ∃ tag, m.tag? id = some tag ∧ tag.span.contains offset ∧
    ∀ {other : TagId} {outer : MarkupTag}, m.tag? other = some outer →
      outer.span.contains offset → other ≠ id →
      tag.span.stop - tag.span.start < outer.span.stop - outer.span.start

variable {m : MarkupDocument} {position offset : Nat} {id above root child parent : TagId}
  {tag outer : MarkupTag}

theorem IsShortestAt.unique {other : TagId} (h : m.IsShortestAt offset id)
    (hother : m.IsShortestAt offset other) : id = other := by
  obtain ⟨tag, htag, hcontains, hshortest⟩ := h
  obtain ⟨outer, houter, hcontains', hshortest'⟩ := hother
  by_contra hne
  exact Nat.lt_asymm (hshortest houter hcontains' (Ne.symm hne)) (hshortest' htag hcontains hne)

namespace Nested

variable (h : m.Nested [] position)

include h

theorem inside_of_closed {inner : MarkupTag} (hparent : m.parent? child = some parent)
    (hinner : m.tag? child = some inner) (houter : m.tag? parent = some outer) :
    outer.openSpan.stop ≤ inner.span.start ∧ inner.span.stop ≤ outer.span.stop :=
  (h.inside hparent hinner houter).imp_right (Or.resolve_left · List.not_mem_nil)

theorem index_le_of_above (habove : m.Above id above) : above.index ≤ id.index := by
  induction habove with
  | refl => exact Nat.le_refl _
  | tail _ hparent ih => exact Nat.le_trans (Nat.le_of_lt (h.later hparent)) ih

/-- The tags above a tag enclose it, and all but the tag itself start in front of it. -/
theorem encloses_of_above (habove : m.Above id above) (htag : m.tag? id = some tag)
    (houter : m.tag? above = some outer) :
    outer.span.encloses tag.span ∧ (id = above ∨ outer.span.start < tag.span.start) := by
  rw [Span.encloses_iff]
  induction habove using Relation.ReflTransGen.head_induction_on generalizing tag with
  | refl =>
      obtain rfl := Option.some.inj (htag.symm.trans houter)
      exact ⟨⟨Nat.le_refl _, Nat.le_refl _⟩, .inl rfl⟩
  | head hparent _ ih =>
      obtain ⟨next, hnext⟩ := h.exists_parent hparent
      have hinside := h.inside_of_closed hparent htag hnext
      have hroom := (h.spans hnext).1
      obtain ⟨hencloses, -⟩ := ih hnext
      exact ⟨by omega, .inr (by omega)⟩

/-- Of two tags one stands above the other, or one ends in front of the other. -/
theorem above_or_apart {first second : TagId} {one other : MarkupTag}
    (hone : m.tag? first = some one) (hother : m.tag? second = some other) :
    (m.Above first second ∨ m.Above second first) ∨
      one.span.stop ≤ other.span.start ∨ other.span.stop ≤ one.span.start := by
  rcases Nat.lt_trichotomy first.index second.index with hlt | heq | hlt
  · exact (h.apart hlt hone hother).imp .inr fun hapart => .inl hapart.2
  · rw [TagId.index_injective heq]
    exact .inl (.inl .refl)
  · exact (h.apart hlt hother hone).imp .inl fun hapart => .inr hapart.2

theorem above_of_encloses (htag : m.tag? id = some tag) (houter : m.tag? above = some outer)
    (hencloses : outer.span.encloses tag.span) : m.Above id above := by
  have hroom := h.spans htag
  have hroom' := h.spans houter
  rw [Span.encloses_iff] at hencloses
  rcases h.above_or_apart htag houter with (habove | hbelow) | hapart
  · exact habove
  · rcases (h.encloses_of_above hbelow houter htag).2 with rfl | hlt
    · exact .refl
    · omega
  · omega

/-- No child of a tag stands above another one: the chain of parents goes on with the tag itself,
which comes before both. -/
theorem not_above_sibling {first second : TagId} (hfirst : m.IsChild id first)
    (hsecond : m.IsChild id second) (hlt : first.index < second.index) :
    ¬ m.Above second first := by
  intro habove
  rcases Relation.ReflTransGen.cases_head habove with rfl | ⟨next, hnext, hrest⟩
  · exact Nat.lt_irrefl _ hlt
  · obtain rfl := Option.some.inj (hnext.symm.trans (h.links.mpr hsecond))
    have hle := h.index_le_of_above hrest
    have hparent := h.later (h.links.mpr hfirst)
    omega

theorem siblings (htag : m.tag? id = some tag) :
    tag.children.Pairwise fun first second => ∀ {before after : MarkupTag},
      m.tag? first = some before → m.tag? second = some after →
      before.span.stop ≤ after.span.start := by
  refine (h.increasing htag).imp_of_mem ?_
  intro first second hfirst hsecond hlt before after hbefore hafter
  have hnot := h.not_above_sibling ⟨tag, htag, hfirst⟩ ⟨tag, htag, hsecond⟩ hlt
  exact ((h.apart hlt hbefore hafter).resolve_left hnot).2

theorem properlyNested : m.ProperlyNested where
  links := h.links
  later hchild := h.later (h.links.mpr hchild)
  startTag htag := ⟨(h.spans htag).1, (h.spans htag).2.1⟩
  inside hchild := h.inside_of_closed (h.links.mpr hchild)
  siblings := h.siblings
  disjoint_or_nested hone hother := by
    rcases h.above_or_apart hone hother with (habove | habove) | hapart
    · exact .inr (.inr (h.encloses_of_above habove hone hother).1)
    · exact .inr (.inl (h.encloses_of_above habove hother hone).1)
    · exact .inl hapart
  encloses_iff htag houter :=
    ⟨h.above_of_encloses htag houter, fun habove => (h.encloses_of_above habove htag houter).1⟩

/-- All chains of parents end in the only tag that has no parent. -/
theorem above_root
    (hroot : ∀ {id : TagId} {tag : MarkupTag}, m.tag? id = some tag → tag.parent = none → id = root)
    (htag : m.tag? id = some tag) : m.Above id root := by
  induction hindex : id.index using Nat.strongRecOn generalizing id tag with
  | _ index ih =>
      cases hparent : tag.parent with
      | none =>
          rw [hroot htag hparent]
          exact .refl
      | some parent =>
          have hlink : m.parent? id = some parent := parent?_eq_some.mpr ⟨tag, htag, hparent⟩
          obtain ⟨outer, houter⟩ := h.exists_parent hlink
          exact .head hlink (ih parent.index (hindex ▸ h.later hlink) houter rfl)

/-- The search from any tag comes to an end, since children come after their parents. -/
theorem exists_leads (offset : Nat) (id : TagId) :
    ∃ moves stop, Leads (m.childAt? offset) moves id stop := by
  induction hleft : m.tags.length - id.index using Nat.strongRecOn generalizing id with
  | _ left ih =>
      cases hnext : m.childAt? offset id with
      | none => exact ⟨0, id, .stop hnext⟩
      | some child =>
          have hchild := isChild_of_childAt? hnext
          have hlater := h.later (h.links.mpr hchild)
          obtain ⟨tag, htag⟩ := h.exists_child hchild
          have hlt := index_lt_of_tag? htag
          obtain ⟨moves, stop, hleads⟩ := ih _ (by omega) child rfl
          exact ⟨moves + 1, stop, .move hnext hleads⟩

/-- Where no child contains the offset, no other tag below does. -/
theorem eq_of_childAt?_eq_none (hstop : m.childAt? offset above = none) (habove : m.Above id above)
    (htag : m.tag? id = some tag) (hcontains : tag.span.contains offset) : id = above := by
  rcases Relation.ReflTransGen.cases_tail habove with rfl | ⟨child, hbelow, hparent⟩
  · rfl
  · obtain ⟨outer, houter, hmem⟩ := h.links.mp hparent
    obtain ⟨between, hbetween⟩ := h.exists_child ⟨outer, houter, hmem⟩
    have hencloses := (h.encloses_of_above hbelow htag hbetween).1
    rw [childAt?, houter] at hstop
    have hnot := List.find?_eq_none.mp hstop child hmem
    rw [hbetween] at hnot
    simp only [Option.any_some, Span.contains_iff, Span.encloses_iff] at hnot hcontains hencloses
    omega

/-- The tag where the search stops is the shortest one. -/
theorem isShortestAt_of_childAt?_eq_none (hstop : m.childAt? offset id = none)
    (htag : m.tag? id = some tag) (hcontains : tag.span.contains offset) :
    m.IsShortestAt offset id := by
  refine ⟨tag, htag, hcontains, ?_⟩
  intro other outer houter hcontains' hne
  rcases h.above_or_apart htag houter with (habove | hbelow) | hapart
  · obtain ⟨hencloses, hstart⟩ := h.encloses_of_above habove htag houter
    have hlt := hstart.resolve_left (Ne.symm hne)
    rw [Span.encloses_iff] at hencloses
    have hroom := h.spans htag
    omega
  · exact absurd (h.eq_of_childAt?_eq_none hstop hbelow houter hcontains') hne
  · rw [Span.contains_iff] at hcontains hcontains'
    omega

theorem tagAt_of_contains (hroot : m.rootTag? = some (root, tag))
    (hcontains : tag.span.contains offset) :
    ∃ id, m.tagAt offset = .ok (some id) ∧ m.IsShortestAt offset id := by
  obtain ⟨start, -, hstart⟩ := Option.bind_eq_some_iff.mp hroot
  obtain ⟨found, htag, heq⟩ := Option.map_eq_some_iff.mp hstart
  cases heq
  obtain ⟨moves, id, hleads⟩ := h.exists_leads offset root
  have hwalk : walk (m.childAt? offset) m.tags.length root = .ok id := by
    refine hleads.walk_eq_of_places TagId.index_injective fun place hsome => ?_
    obtain ⟨tag, htag⟩ := Option.isSome_iff_exists.mp (Option.isSome_of_isSome_bind hsome)
    exact index_lt_of_tag? htag
  have hany : (m.tag? id).any (·.span.contains offset) :=
    contains_of_leads hleads (by simpa [htag] using hcontains)
  obtain ⟨last, hlast, hspan⟩ := (Option.any_eq_true _ _).mp hany
  refine ⟨id, ?_, h.isShortestAt_of_childAt?_eq_none hleads.next_eq_none hlast hspan⟩
  rw [tagAt, hroot]
  simp only [hcontains, if_true, hwalk]
  rfl

/-- With a single root the answer is the shortest tag of all, or there is none to be found. -/
theorem exists_tagAt (hroot : ∃! id, ∃ tag, m.tag? id = some tag ∧ tag.parent = none)
    (offset : Nat) :
    ∃ found, m.tagAt offset = .ok found ∧ (∀ id, found = some id ↔ m.IsShortestAt offset id) ∧
      (found = none ↔ ∀ id tag, m.tag? id = some tag → ¬ tag.span.contains offset) := by
  obtain ⟨root, ⟨tag, htag, hnone⟩, hunique⟩ := hroot
  have hfirst : m.rootTag? = some (root, tag) := by
    obtain ⟨first, hfirst⟩ := Option.isSome_iff_exists.mp (h.rooted.exists_root htag hnone)
    obtain rfl := hunique first (h.rooted.parentless hfirst)
    simp [rootTag?, hfirst, htag]
  by_cases hcontains : tag.span.contains offset
  · obtain ⟨id, hanswer, hshortest⟩ := h.tagAt_of_contains hfirst hcontains
    refine ⟨some id, hanswer, fun other => ⟨?_, fun hother => ?_⟩, ?_, fun hall => ?_⟩
    · rintro ⟨⟩
      exact hshortest
    · rw [hshortest.unique hother]
    · intro hnone
      cases hnone
    · exact absurd hcontains (hall root tag htag)
  · have hall (id : TagId) (found : MarkupTag) (hfound : m.tag? id = some found) :
        ¬ found.span.contains offset := by
      have habove := h.above_root (fun hid hparent => hunique _ ⟨_, hid, hparent⟩) hfound
      have hencloses := (h.encloses_of_above habove hfound htag).1
      rw [Span.encloses_iff] at hencloses
      rw [Span.contains_iff] at hcontains ⊢
      omega
    refine ⟨none, ?_, fun id => ⟨?_, ?_⟩, fun _ => hall, fun _ => rfl⟩
    · rw [tagAt, hfirst]
      simp only [hcontains]
      rfl
    · intro hsome
      cases hsome
    · rintro ⟨found, hfound, hspan, -⟩
      exact absurd hspan (hall id found hfound)

end Nested

end MarkupDocument

namespace Markup

/-- A text whose tags are all closed and lie in a single root gives properly nested tags, and the
search for an offset finds the shortest of the tags that contain it. -/
theorem document_nests_and_locates (path : Path) (text : String)
    (hclosed : (Tree.ofEvents (scan text.toList)).opened = [])
    (hroot : ∃! id, ∃ tag, (document path text).tag? id = some tag ∧ tag.parent = none) :
    (document path text).ProperlyNested ∧
      ∀ offset, ∃ found, (document path text).tagAt offset = .ok found ∧
        (∀ id, found = some id ↔ (document path text).IsShortestAt offset id) ∧
        (found = none ↔
          ∀ id tag, (document path text).tag? id = some tag → ¬ tag.span.contains offset) := by
  obtain ⟨position, hnested⟩ := Tree.nested_scan path text.toList
  rw [hclosed] at hnested
  exact ⟨hnested.properlyNested, hnested.exists_tagAt hroot⟩

namespace NestingSample

/-- Angle brackets stand in a comment, a script and a quoted value, none of them a tag. -/
def text : String :=
  "<s:App><!-- <s> --><fx:Script><![CDATA[a<b]]></fx:Script><s:Row><s:Pad x='/>'/></s:Row></s:App>"

def path : Path :=
  ⟨"/p/App.mxml"⟩

theorem parents :
    (document path text).tags.map (·.parent) =
      [none, some ⟨0⟩, some ⟨0⟩, some ⟨2⟩] := by
  decide +kernel

theorem closed : (Tree.ofEvents (scan text.toList)).opened = [] := by
  decide +kernel

theorem existsUnique_root :
    ∃! id, ∃ tag, (document path text).tag? id = some tag ∧ tag.parent = none := by
  have hiff (id : TagId) : (∃ tag, (document path text).tag? id = some tag ∧ tag.parent = none) ↔
      ((document path text).tags.map (·.parent))[id.index]? = some none := by
    simp [MarkupDocument.tag?]
  simp only [hiff, parents]
  refine ⟨⟨0⟩, rfl, ?_⟩
  rintro ⟨_ | _ | _ | _ | index⟩ hnone
  · rfl
  all_goals cases hnone

end NestingSample

/-- The offset lies in the quoted value. -/
theorem document_nests_and_locates_of_sample :
    (Tree.ofEvents (scan NestingSample.text.toList)).opened = [] ∧
      (document NestingSample.path NestingSample.text).ProperlyNested ∧
      (document NestingSample.path NestingSample.text).IsShortestAt 74 ⟨3⟩ := by
  obtain ⟨hnested, hlocates⟩ := document_nests_and_locates NestingSample.path NestingSample.text
    NestingSample.closed NestingSample.existsUnique_root
  obtain ⟨found, hfound, hshortest, -⟩ := hlocates 74
  have hvalue : (document NestingSample.path NestingSample.text).tagAt 74 = .ok (some ⟨3⟩) := by
    decide +kernel
  rw [hvalue] at hfound
  cases hfound
  exact ⟨NestingSample.closed, hnested, (hshortest ⟨3⟩).mp rfl⟩

end Markup

end SymbolNav
