import Mathlib.Logic.Relation
import SymbolNav.Markup.Tree
import SymbolNav.Proofs.Markup.Order
import SymbolNav.Proofs.Navigation.Circles

/-!
# The tags of a text nest

`Nested` is what holds of the tags while they are put together: the tags still open form a path of
parents, and a tag that is closed ends in front of every later tag that is not below it. An end tag
moves the end of a tag that was read long before, so a child is known to end inside its parent only
once the parent is closed; until then it ends in front of what has been read so far.

Both moves of the tree keep this, so it holds after any tags that come in the order of their
offsets, and the tags of a scanned text do.
-/

namespace SymbolNav

namespace MarkupDocument

def parent? (m : MarkupDocument) (id : TagId) : Option TagId :=
  (m.tag? id).bind (·.parent)

/-- The second tag stands on the chain of parents that starts with the first one. -/
def Above (m : MarkupDocument) : TagId → TagId → Prop :=
  Relation.ReflTransGen fun child parent => m.parent? child = some parent

/-- Each tag of the list has the next one as its parent, and the last one has none. -/
inductive IsPath (m : MarkupDocument) : List TagId → Prop where
  | nil : IsPath m []
  | cons {id : TagId} {back : List TagId} {tag : MarkupTag} (htag : m.tag? id = some tag)
      (hparent : tag.parent = back.head?) (rest : IsPath m back) : IsPath m (id :: back)

/-- There is a root as soon as there is a tag without a parent, and the root is one. -/
structure Rooted (m : MarkupDocument) : Prop where
  exists_root : ∀ {id : TagId} {tag : MarkupTag}, m.tag? id = some tag → tag.parent = none →
    m.root.isSome
  parentless : ∀ {id : TagId}, m.root = some id → ∃ tag, m.tag? id = some tag ∧ tag.parent = none

/-- The tags read up to a position nest, but for the ends of those still open. -/
structure Nested (m : MarkupDocument) (opened : List TagId) (position : Nat) : Prop where
  /-- A tag begins with its start tag, and ends in what has been read. -/
  spans : ∀ {id : TagId} {tag : MarkupTag}, m.tag? id = some tag →
    tag.span.start < tag.openSpan.stop ∧ tag.openSpan.stop ≤ tag.span.stop ∧
      tag.span.stop ≤ position
  links : ∀ {child parent : TagId}, m.parent? child = some parent ↔ m.IsChild parent child
  later : ∀ {child parent : TagId}, m.parent? child = some parent → parent.index < child.index
  increasing : ∀ {id : TagId} {tag : MarkupTag}, m.tag? id = some tag →
    tag.children.Pairwise fun first second => first.index < second.index
  path : m.IsPath opened
  inside : ∀ {child parent : TagId} {inner outer : MarkupTag}, m.parent? child = some parent →
    m.tag? child = some inner → m.tag? parent = some outer →
    outer.openSpan.stop ≤ inner.span.start ∧
      (parent ∈ opened ∨ inner.span.stop ≤ outer.span.stop)
  apart : ∀ {first second : TagId} {before after : MarkupTag}, first.index < second.index →
    m.tag? first = some before → m.tag? second = some after →
    m.Above second first ∨ first ∉ opened ∧ before.span.stop ≤ after.span.start
  rooted : m.Rooted

variable {m m' : MarkupDocument} {opened : List TagId} {id child parent above : TagId}
  {tag : MarkupTag} {position : Nat}

theorem index_lt_of_tag? (h : m.tag? id = some tag) : id.index < m.tags.length :=
  (List.getElem?_eq_some_iff.mp h).1

theorem parent?_eq_some :
    m.parent? child = some parent ↔ ∃ tag, m.tag? child = some tag ∧ tag.parent = some parent :=
  Option.bind_eq_some_iff

/-- Parents are kept when tags are added and when their spans change. -/
theorem Above.mono (h : m.Above id above)
    (hparents : ∀ {child parent}, m.parent? child = some parent → m'.parent? child = some parent) :
    m'.Above id above :=
  Relation.ReflTransGen.mono (fun _ _ hparent => hparents hparent) _ _ h

namespace IsPath

theorem mono (h : m.IsPath opened)
    (hparents : ∀ {id tag}, m.tag? id = some tag →
      ∃ found, m'.tag? id = some found ∧ found.parent = tag.parent) : m'.IsPath opened := by
  induction h with
  | nil => exact .nil
  | cons htag hparent _ ih =>
      obtain ⟨found, hfound, hsame⟩ := hparents htag
      exact .cons hfound (hsame.trans hparent) ih

theorem exists_tag (h : m.IsPath opened) (hid : id ∈ opened) : ∃ tag, m.tag? id = some tag := by
  induction h with
  | nil => exact absurd hid List.not_mem_nil
  | cons htag _ _ ih =>
      rcases List.mem_cons.mp hid with rfl | hid
      · exact ⟨_, htag⟩
      · exact ih hid

/-- All tags of a path stand above its first one. -/
theorem above_of_mem (h : m.IsPath opened) (hhead : opened.head? = some id)
    (habove : above ∈ opened) : m.Above id above := by
  induction h generalizing id with
  | nil => exact absurd habove List.not_mem_nil
  | @cons first back tag htag hparent _ ih =>
      obtain rfl : first = id := Option.some.inj hhead
      rcases List.mem_cons.mp habove with rfl | hback
      · exact .refl
      · obtain ⟨next, hnext⟩ : ∃ next, back.head? = some next :=
          Option.isSome_iff_exists.mp (List.isSome_head?.mpr (List.ne_nil_of_mem hback))
        exact .head (parent?_eq_some.mpr ⟨tag, htag, hparent.trans hnext⟩) (ih hnext hback)

end IsPath

namespace Nested

theorem mono {further : Nat} (h : m.Nested opened position) (hfurther : position ≤ further) :
    m.Nested opened further :=
  { h with
    spans := fun htag =>
      have hspans := h.spans htag
      ⟨hspans.1, hspans.2.1, Nat.le_trans hspans.2.2 hfurther⟩ }

theorem exists_parent (h : m.Nested opened position) (hparent : m.parent? child = some parent) :
    ∃ tag, m.tag? parent = some tag := by
  obtain ⟨tag, htag, -⟩ := h.links.mp hparent
  exact ⟨tag, htag⟩

/-- The tags listed as children are tags of the document. -/
theorem exists_child (h : m.Nested opened position) (hchild : m.IsChild parent child) :
    ∃ tag, m.tag? child = some tag := by
  obtain ⟨tag, htag, -⟩ := parent?_eq_some.mp (h.links.mpr hchild)
  exact ⟨tag, htag⟩

end Nested

end MarkupDocument

namespace Markup.Tree

open MarkupDocument

/-- The document of the tags seen so far. -/
def document (t : Tree) (path : Path) : MarkupDocument :=
  ⟨path, t.tags, t.root⟩

/-- The handle of the tag that comes next. -/
def next (t : Tree) : TagId :=
  ⟨t.tags.length⟩

/-- What becomes of a tag when the next one is opened: the one opened last gets a child. -/
def adopt (t : Tree) (id : TagId) (tag : MarkupTag) : MarkupTag :=
  if t.opened.head? = some id then { tag with children := tag.children ++ [t.next] } else tag

/-- What becomes of a tag when an end tag closes `top`: the end of that tag moves. -/
def finish (top : TagId) (name : Span) (stop : Nat) (id : TagId) (tag : MarkupTag) : MarkupTag :=
  if id = top then { tag with closeNameSpan := some name, span := ⟨tag.span.start, stop⟩ } else tag

variable {t : Tree} {path : Path} {tag : MarkupTag} {selfClosing : Bool} {name : Span}
  {stop position : Nat} {id top child parent : TagId} {opened : List TagId}

@[simp] theorem adopt_parent : (t.adopt id tag).parent = tag.parent := by
  unfold adopt
  split <;> rfl

@[simp] theorem adopt_span : (t.adopt id tag).span = tag.span := by
  unfold adopt
  split <;> rfl

@[simp] theorem adopt_openSpan : (t.adopt id tag).openSpan = tag.openSpan := by
  unfold adopt
  split <;> rfl

theorem mem_children_adopt :
    child ∈ (t.adopt id tag).children ↔
      child ∈ tag.children ∨ t.opened.head? = some id ∧ child = t.next := by
  unfold adopt
  split <;> simp_all

theorem tag?_next : (t.document path).tag? t.next = none :=
  List.getElem?_eq_none (Nat.le_refl _)

theorem ne_next_of_tag? (h : (t.document path).tag? id = some tag) : id ≠ t.next := by
  rintro rfl
  rw [tag?_next] at h
  cases h

/-- Opening a tag changes the one opened last and adds a tag at the end. -/
theorem tags_start :
    (t.start tag selfClosing).tags =
      (t.tags.mapIdx fun i => t.adopt ⟨i⟩) ++ [{ tag with parent := t.opened.head? }] := by
  refine congrArg (· ++ [_]) (List.ext_getElem? fun i => ?_)
  rw [List.getElem?_mapIdx]
  cases hopened : t.opened with
  | nil =>
      have hadopt : t.adopt ⟨i⟩ = id := by
        funext tag
        simp [adopt, hopened]
      rw [hadopt, Option.map_id]
      rfl
  | cons top opened =>
      have hadopt : t.adopt ⟨i⟩ = fun tag =>
          if top.index = i then { tag with children := tag.children ++ [t.next] } else tag := by
        funext tag
        cases top
        simp [adopt, hopened]
      rw [hadopt]
      exact List.getElem?_modify _ _ _ _

theorem tag?_start :
    ((t.start tag selfClosing).document path).tag? id =
      if id = t.next then some { tag with parent := t.opened.head? }
      else ((t.document path).tag? id).map (t.adopt id) := by
  have hindex : id = t.next ↔ id.index = t.tags.length :=
    TagId.index_injective.eq_iff.symm
  change (t.start tag selfClosing).tags[id.index]? = _
  rw [tags_start, List.getElem?_append, List.length_mapIdx, List.getElem?_mapIdx]
  by_cases hnext : id = t.next
  · rw [if_pos hnext, if_neg (by have := hindex.mp hnext; omega), hindex.mp hnext, Nat.sub_self]
    rfl
  · have hne : id.index ≠ t.tags.length := fun h => hnext (hindex.mpr h)
    rw [if_neg hnext]
    split
    · rfl
    · have hnone : (t.document path).tag? id = none :=
        List.getElem?_eq_none (Nat.le_of_not_lt ‹_›)
      rw [hnone, Option.map_none, List.getElem?_eq_none]
      simp only [List.length_singleton]
      omega

/-- An end tag changes the tag opened last. -/
theorem tag?_close (h : t.opened = top :: opened) :
    ((t.close name stop).document path).tag? id =
      ((t.document path).tag? id).map (finish top name stop id) := by
  have hindex : id = top ↔ top.index = id.index :=
    eq_comm.trans TagId.index_injective.eq_iff.symm
  have hfinish : finish top name stop id = fun tag => if top.index = id.index then
      { tag with closeNameSpan := some name, span := ⟨tag.span.start, stop⟩ } else tag := by
    funext tag
    simp only [finish, hindex]
  simp only [document, MarkupDocument.tag?, close, h, List.getElem?_modify, hfinish]
  rfl

section Start

/-- After a tag is opened, the tags are the new one and those there were. -/
theorem tag?_start_eq_some {found : MarkupTag} :
    ((t.start tag selfClosing).document path).tag? id = some found ↔
      id = t.next ∧ { tag with parent := t.opened.head? } = found ∨
        ∃ old, (t.document path).tag? id = some old ∧ t.adopt id old = found := by
  rw [tag?_start]
  split
  · rename_i hnext
    simp [hnext, tag?_next]
  · rename_i hnext
    simp [hnext]

theorem tag?_start_next :
    ((t.start tag selfClosing).document path).tag? t.next =
      some { tag with parent := t.opened.head? } :=
  tag?_start_eq_some.mpr (.inl ⟨rfl, rfl⟩)

theorem tag?_start_of_tag? {old : MarkupTag} (h : (t.document path).tag? id = some old) :
    ((t.start tag selfClosing).document path).tag? id = some (t.adopt id old) :=
  tag?_start_eq_some.mpr (.inr ⟨old, h, rfl⟩)

theorem parent?_start :
    ((t.start tag selfClosing).document path).parent? id =
      if id = t.next then t.opened.head? else (t.document path).parent? id := by
  rw [parent?, tag?_start]
  split
  · rfl
  · cases h : (t.document path).tag? id <;> simp [parent?, h]

theorem parent?_start_of_eq_some (h : (t.document path).parent? child = some parent) :
    ((t.start tag selfClosing).document path).parent? child = some parent := by
  obtain ⟨found, hfound, -⟩ := parent?_eq_some.mp h
  rw [parent?_start, if_neg (ne_next_of_tag? hfound), h]

theorem above_start {above : TagId} (h : (t.document path).Above id above) :
    ((t.start tag selfClosing).document path).Above id above :=
  h.mono parent?_start_of_eq_some

theorem isChild_start (hpath : (t.document path).IsPath t.opened) (hchildless : tag.children = []) :
    ((t.start tag selfClosing).document path).IsChild parent child ↔
      (t.document path).IsChild parent child ∨ t.opened.head? = some parent ∧ child = t.next := by
  constructor
  · rintro ⟨found, hfound, hchild⟩
    rcases tag?_start_eq_some.mp hfound with ⟨-, rfl⟩ | ⟨old, hold, rfl⟩
    · simp [hchildless] at hchild
    · exact (mem_children_adopt.mp hchild).imp_left fun hold' => ⟨old, hold, hold'⟩
  · rintro (⟨old, hold, hchild⟩ | ⟨hhead, rfl⟩)
    · exact ⟨_, tag?_start_of_tag? hold, mem_children_adopt.mpr (.inl hchild)⟩
    · obtain ⟨old, hold⟩ := hpath.exists_tag (List.mem_of_mem_head? hhead)
      exact ⟨_, tag?_start_of_tag? hold, mem_children_adopt.mpr (.inr ⟨hhead, rfl⟩)⟩

theorem mem_opened_start (h : id ∈ t.opened) : id ∈ (t.start tag selfClosing).opened := by
  cases selfClosing with
  | true => exact h
  | false => exact List.mem_cons_of_mem _ h

theorem mem_opened_of_start (h : id ∈ (t.start tag selfClosing).opened) (hne : id ≠ t.next) :
    id ∈ t.opened := by
  cases selfClosing with
  | true => exact h
  | false => exact (List.mem_cons.mp h).resolve_left hne

theorem isPath_start (h : (t.document path).IsPath t.opened) :
    ((t.start tag selfClosing).document path).IsPath (t.start tag selfClosing).opened := by
  have hopened : ((t.start tag selfClosing).document path).IsPath t.opened :=
    h.mono fun htag => ⟨_, tag?_start_of_tag? htag, adopt_parent⟩
  cases selfClosing with
  | true => exact hopened
  | false => exact .cons tag?_start_next rfl hopened

/-- The first tag without a parent becomes the root, and stays it. -/
theorem rooted_start (h : (t.document path).Rooted) :
    ((t.start tag selfClosing).document path).Rooted := by
  have hroot : ((t.start tag selfClosing).document path).root =
      if t.opened.head?.isNone then t.root.or (some t.next) else t.root := rfl
  have hkept {id : TagId} (hid : t.root = some id) :
      ∃ found, ((t.start tag selfClosing).document path).tag? id = some found ∧
        found.parent = none := by
    obtain ⟨old, hold, hnone⟩ := h.parentless hid
    exact ⟨_, tag?_start_of_tag? hold, adopt_parent.trans hnone⟩
  constructor
  · intro id found hfound hnone
    rw [hroot]
    split
    · simp
    · rename_i hhead
      rcases tag?_start_eq_some.mp hfound with ⟨-, rfl⟩ | ⟨old, hold, rfl⟩
      · exact absurd (Option.isNone_iff_eq_none.mpr hnone) hhead
      · exact h.exists_root hold (adopt_parent.symm.trans hnone)
  · intro id hid
    rw [hroot] at hid
    split at hid
    · rename_i hhead
      rcases Option.or_eq_some_iff.mp hid with hid | ⟨-, hid⟩
      · exact hkept hid
      · cases hid
        exact ⟨_, tag?_start_next, Option.isNone_iff_eq_none.mp hhead⟩
    · exact hkept hid

/-- Opening a tag behind all that has been read keeps the tags nested. -/
theorem nested_start (h : (t.document path).Nested t.opened position)
    (hbehind : position ≤ tag.span.start) (hroom : tag.span.start < tag.span.stop)
    (hstart : tag.openSpan = tag.span) (hchildless : tag.children = []) :
    ((t.start tag selfClosing).document path).Nested (t.start tag selfClosing).opened
      tag.span.stop where
  spans {id found} hfound := by
    rcases tag?_start_eq_some.mp hfound with ⟨-, rfl⟩ | ⟨old, hold, rfl⟩
    · simp only [hstart]
      omega
    · have hspans := h.spans hold
      simp only [adopt_span, adopt_openSpan]
      omega
  links {child parent} := by
    rw [parent?_start, isChild_start h.path hchildless]
    split
    · rename_i hnext
      subst hnext
      have hold : ¬ (t.document path).IsChild parent t.next := by
        intro hchild
        obtain ⟨found, hfound⟩ := h.exists_child hchild
        exact ne_next_of_tag? hfound rfl
      simp [hold]
    · rename_i hnext
      simp [h.links, hnext]
  later {child parent} hparent := by
    rw [parent?_start] at hparent
    split at hparent
    · rename_i hnext
      obtain ⟨found, hfound⟩ := h.path.exists_tag (List.mem_of_mem_head? hparent)
      exact hnext ▸ index_lt_of_tag? hfound
    · exact h.later hparent
  increasing {id found} hfound := by
    rcases tag?_start_eq_some.mp hfound with ⟨-, rfl⟩ | ⟨old, hold, rfl⟩
    · simp [hchildless]
    · unfold adopt
      split
      · refine List.pairwise_append.mpr ⟨h.increasing hold, List.pairwise_singleton _ _, ?_⟩
        intro child hchild last hlast
        obtain ⟨found, hfound⟩ := h.exists_child ⟨old, hold, hchild⟩
        exact List.mem_singleton.mp hlast ▸ index_lt_of_tag? hfound
      · exact h.increasing hold
  path := isPath_start h.path
  inside {child parent inner outer} hparent hinner houter := by
    rcases tag?_start_eq_some.mp hinner with ⟨rfl, rfl⟩ | ⟨oldInner, holdInner, rfl⟩
    · rw [parent?_start, if_pos rfl] at hparent
      have hmem := List.mem_of_mem_head? hparent
      obtain ⟨oldOuter, holdOuter⟩ := h.path.exists_tag hmem
      have hspans := h.spans holdOuter
      rw [tag?_start_of_tag? holdOuter] at houter
      cases houter
      rw [adopt_openSpan]
      exact ⟨Nat.le_trans hspans.2.1 (Nat.le_trans hspans.2.2 hbehind),
        .inl (mem_opened_start hmem)⟩
    · rw [parent?_start, if_neg (ne_next_of_tag? holdInner)] at hparent
      obtain ⟨oldOuter, holdOuter⟩ := h.exists_parent hparent
      rw [tag?_start_of_tag? holdOuter] at houter
      cases houter
      simp only [adopt_span, adopt_openSpan]
      exact (h.inside hparent holdInner holdOuter).imp_right (.imp_left mem_opened_start)
  apart {first second before after} hlt hbefore hafter := by
    have hne : first ≠ t.next := by
      rintro rfl
      rcases tag?_start_eq_some.mp hafter with ⟨rfl, -⟩ | ⟨old, hold, -⟩
      · exact Nat.lt_irrefl _ hlt
      · exact Nat.lt_asymm hlt (index_lt_of_tag? hold)
    obtain ⟨oldBefore, holdBefore, rfl⟩ :=
      (tag?_start_eq_some.mp hbefore).resolve_left fun hnew => hne hnew.1
    rw [adopt_span]
    rcases tag?_start_eq_some.mp hafter with ⟨rfl, rfl⟩ | ⟨oldAfter, holdAfter, rfl⟩
    · -- the new tag lies below the open tags, and behind the ends of all others
      by_cases hopen : first ∈ t.opened
      · obtain ⟨top, htop⟩ := Option.isSome_iff_exists.mp
          (List.isSome_head?.mpr (List.ne_nil_of_mem hopen))
        have hparent : ((t.start tag selfClosing).document path).parent? t.next = some top := by
          rw [parent?_start, if_pos rfl, htop]
        exact .inl (.head hparent (above_start (h.path.above_of_mem htop hopen)))
      · have hspans := h.spans holdBefore
        exact .inr ⟨fun hmem => hopen (mem_opened_of_start hmem hne),
          Nat.le_trans hspans.2.2 hbehind⟩
    · rw [adopt_span]
      refine (h.apart hlt holdBefore holdAfter).imp above_start (.imp_left fun hclosed hmem => ?_)
      exact hclosed (mem_opened_of_start hmem hne)
  rooted := rooted_start h.rooted

end Start

section Close

variable {old : MarkupTag}

@[simp] theorem finish_parent : (finish top name stop id old).parent = old.parent := by
  unfold finish
  split <;> rfl

@[simp] theorem finish_children : (finish top name stop id old).children = old.children := by
  unfold finish
  split <;> rfl

@[simp] theorem finish_openSpan : (finish top name stop id old).openSpan = old.openSpan := by
  unfold finish
  split <;> rfl

@[simp] theorem finish_span_start :
    (finish top name stop id old).span.start = old.span.start := by
  unfold finish
  split <;> rfl

theorem finish_span_stop :
    (finish top name stop id old).span.stop = if id = top then stop else old.span.stop := by
  unfold finish
  split <;> rfl

theorem tag?_close_eq_some {found : MarkupTag} (h : t.opened = top :: opened) :
    ((t.close name stop).document path).tag? id = some found ↔
      ∃ old, (t.document path).tag? id = some old ∧ finish top name stop id old = found := by
  rw [tag?_close h, Option.map_eq_some_iff]

/-- An end tag changes no links. -/
theorem parent?_close (h : t.opened = top :: opened) :
    ((t.close name stop).document path).parent? id = (t.document path).parent? id := by
  rw [parent?, parent?, tag?_close h]
  cases (t.document path).tag? id with
  | none => rfl
  | some old => exact finish_parent

theorem isChild_close (h : t.opened = top :: opened) :
    ((t.close name stop).document path).IsChild parent child ↔
      (t.document path).IsChild parent child := by
  simp [IsChild, tag?_close_eq_some h]

theorem above_close {above : TagId} (h : t.opened = top :: opened)
    (habove : (t.document path).Above id above) :
    ((t.close name stop).document path).Above id above :=
  habove.mono fun hparent => (parent?_close h).trans hparent

theorem isPath_close (h : t.opened = top :: opened)
    (hpath : (t.document path).IsPath (top :: opened)) :
    ((t.close name stop).document path).IsPath opened := by
  cases hpath with
  | cons _ _ rest =>
      exact rest.mono fun hold => ⟨_, (tag?_close_eq_some h).mpr ⟨_, hold, rfl⟩, finish_parent⟩

/-- The parent of the tag opened last is open too. -/
theorem mem_opened_of_parent? (hpath : (t.document path).IsPath (top :: opened))
    (hparent : (t.document path).parent? top = some parent) : parent ∈ opened := by
  cases hpath with
  | cons htag hhead _ =>
      obtain ⟨found, hfound, hlink⟩ := parent?_eq_some.mp hparent
      obtain rfl := Option.some.inj (htag.symm.trans hfound)
      exact List.mem_of_mem_head? (hhead.symm.trans hlink)

theorem rooted_close (h : t.opened = top :: opened) (hrooted : (t.document path).Rooted) :
    ((t.close name stop).document path).Rooted := by
  have hroot : ((t.close name stop).document path).root = (t.document path).root := by
    simp only [close, h]
    rfl
  constructor
  · intro id found hfound hnone
    obtain ⟨old, hold, rfl⟩ := (tag?_close_eq_some h).mp hfound
    rw [hroot]
    exact hrooted.exists_root hold (finish_parent.symm.trans hnone)
  · intro id hid
    obtain ⟨old, hold, hnone⟩ := hrooted.parentless (hroot.symm.trans hid)
    exact ⟨_, (tag?_close_eq_some h).mpr ⟨old, hold, rfl⟩, finish_parent.trans hnone⟩

/-- An end tag behind all that has been read keeps the tags nested. -/
theorem nested_close (h : (t.document path).Nested t.opened position)
    (hopened : t.opened = top :: opened) (hbehind : position ≤ stop) :
    ((t.close name stop).document path).Nested opened stop where
  spans {id found} hfound := by
    obtain ⟨old, hold, rfl⟩ := (tag?_close_eq_some hopened).mp hfound
    obtain ⟨hroom, hstop, hread⟩ := h.spans hold
    rw [finish_span_start, finish_openSpan, finish_span_stop]
    refine ⟨hroom, ?_⟩
    split
    · exact ⟨Nat.le_trans hstop (Nat.le_trans hread hbehind), Nat.le_refl _⟩
    · exact ⟨hstop, Nat.le_trans hread hbehind⟩
  links := by
    intro child parent
    rw [parent?_close hopened, isChild_close hopened, h.links]
  later {child parent} hparent := h.later ((parent?_close hopened).symm.trans hparent)
  increasing {id found} hfound := by
    obtain ⟨old, hold, rfl⟩ := (tag?_close_eq_some hopened).mp hfound
    rw [finish_children]
    exact h.increasing hold
  path := isPath_close hopened (hopened ▸ h.path)
  inside {child parent inner outer} hparent hinner houter := by
    rw [parent?_close hopened] at hparent
    obtain ⟨oldInner, holdInner, rfl⟩ := (tag?_close_eq_some hopened).mp hinner
    obtain ⟨oldOuter, holdOuter, rfl⟩ := (tag?_close_eq_some hopened).mp houter
    have hread := (h.spans holdInner).2.2
    obtain ⟨hstart, hstop⟩ := h.inside hparent holdInner holdOuter
    rw [finish_span_start, finish_openSpan, finish_span_stop, finish_span_stop]
    refine ⟨hstart, ?_⟩
    -- the end of the closed tag moves behind those of its children, and its parent is still open
    by_cases hchild : child = top
    · subst hchild
      exact .inl (mem_opened_of_parent? (hopened ▸ h.path) hparent)
    rw [if_neg hchild]
    by_cases hclosed : parent = top
    · rw [if_pos hclosed]
      exact .inr (Nat.le_trans hread hbehind)
    · rw [if_neg hclosed]
      rw [hopened] at hstop
      exact hstop.imp_left fun hmem => (List.mem_cons.mp hmem).resolve_left hclosed
  apart {first second before after} hlt hbefore hafter := by
    obtain ⟨oldBefore, holdBefore, rfl⟩ := (tag?_close_eq_some hopened).mp hbefore
    obtain ⟨oldAfter, holdAfter, rfl⟩ := (tag?_close_eq_some hopened).mp hafter
    rw [finish_span_start, finish_span_stop]
    refine (h.apart hlt holdBefore holdAfter).imp (above_close hopened) ?_
    rintro ⟨hclosed, hstop⟩
    rw [hopened, List.mem_cons, not_or] at hclosed
    rw [if_neg hclosed.1]
    exact ⟨hclosed.2, hstop⟩
  rooted := rooted_close hopened h.rooted

end Close

/-- Tags that come in order keep nesting, whatever was opened before them. -/
theorem nested_foldl {events : List Event} (horder : InOrder position events)
    (h : (t.document path).Nested t.opened position) :
    ∃ final, ((events.foldl step t).document path).Nested (events.foldl step t).opened final := by
  induction horder generalizing t with
  | nil => exact ⟨_, h⟩
  | opened behind room start childless _ ih =>
      exact ih (nested_start h behind room start childless)
  | @closed position stop name events behind _ ih =>
      refine ih (t := t.close name stop) ?_
      cases hopened : t.opened with
      | nil =>
          have hclose : t.close name stop = t := by simp only [close, hopened]
          rw [hclose]
          exact h.mono behind
      | cons top opened =>
          have hclose : (t.close name stop).opened = opened := by simp only [close, hopened]
          rw [hclose]
          exact nested_close h hopened behind

theorem nested_empty (path : Path) : (({} : Tree).document path).Nested [] 0 where
  spans htag := by cases htag
  links := by
    intro child parent
    constructor
    · intro hparent
      cases hparent
    · rintro ⟨tag, htag, -⟩
      cases htag
  later hparent := by cases hparent
  increasing htag := by cases htag
  path := .nil
  inside hparent := by cases hparent
  apart _ hbefore := by cases hbefore
  rooted := by
    constructor
    · intro id tag htag
      cases htag
    · intro id hroot
      cases hroot

/-- The tags of a scanned text nest, but for those that no end tag closes. -/
theorem nested_scan (path : Path) (text : List Char) :
    ∃ final, ((ofEvents (scan text)).document path).Nested (ofEvents (scan text)).opened final :=
  nested_foldl (inOrder_scan text) (nested_empty path)

end Markup.Tree

end SymbolNav
