import Mathlib.Logic.Relation
import SymbolNav.Navigation.MarkupTarget
import SymbolNav.Proofs.Navigation.Tree

/-!
# Links without circles

Nothing keeps the links of a snapshot from leading round in a circle, and a walk along such a circle
has no end. `Acyclic` rules out the circles that a request can run into: among the children of nodes
and tags, among parents, and among the operands of member accesses. A chain of links then visits no
place twice, so as many moves as there are places take every walk to its end. Overrides may lead
round as they like, since no more than `overrideLimit` of them are followed.
-/

namespace SymbolNav

/-- No chain of links that starts at a place leads round in a circle. -/
def FreeOfCircles {α : Type} (link : α → α → Prop) (a : α) : Prop :=
  ∀ b, Relation.ReflTransGen link a b → ¬ Relation.TransGen link b b

namespace FreeOfCircles

variable {α : Type} {link link' : α → α → Prop} {index : α → Nat} {places : Nat} {a b : α}

theorem next (h : FreeOfCircles link a) (hlink : link a b) : FreeOfCircles link b :=
  fun c hc => h c (.head hlink hc)

/-- A circle through a place is a circle through the next one. -/
theorem of_next (h : ∀ b, link a b → FreeOfCircles link b) : FreeOfCircles link a := by
  intro c hc hcircle
  rcases Relation.ReflTransGen.cases_head hc with rfl | ⟨b, hlink, hchain⟩
  · obtain ⟨b, hlink, hback⟩ := Relation.TransGen.head'_iff.mp hcircle
    exact h b hlink b .refl (.tail' hback hlink)
  · exact h b hlink c hchain hcircle

theorem mono (h : FreeOfCircles link a) (hlinks : ∀ {x y}, link' x y → link x y) :
    FreeOfCircles link' a := by
  intro b hb hcircle
  exact h b (Relation.ReflTransGen.mono (fun _ _ => hlinks) _ _ hb)
    (Relation.TransGen.mono (fun _ _ => hlinks) _ _ hcircle)

/-- Links that lead down some ranking of the places do not lead round. -/
theorem of_rank (rank : α → Nat) (hrank : ∀ {x y}, link x y → rank y < rank x) :
    FreeOfCircles link a := by
  have hdown : ∀ {x y}, Relation.TransGen link x y → rank y < rank x := by
    intro x y hchain
    induction hchain with
    | single hlink => exact hrank hlink
    | tail _ hlink ih => exact Nat.lt_trans (hrank hlink) ih
  exact fun b _ hcircle => Nat.lt_irrefl _ (hdown hcircle)

/-- The induction behind `done`. The trail holds the places that have been left on the way to `a`.
They are all different, and `a` is none of them, so some move is left as long as `a` is a place. -/
theorem done_of_trail (Done : Nat → α → Prop) (hinjective : Function.Injective index)
    (houtside : ∀ n a, places ≤ index a → Done n a)
    (hstep : ∀ n a, (∀ b, link a b → Done n b) → Done (n + 1) a) (h : FreeOfCircles link a)
    {n : Nat} {trail : List α} (hnodup : trail.Nodup) (hplaces : ∀ x ∈ trail, index x < places)
    (hchain : ∀ x ∈ trail, Relation.TransGen link x a) (hmoves : places ≤ trail.length + n) :
    Done n a := by
  induction n generalizing a trail with
  | zero =>
      apply houtside 0 a
      apply Nat.le_of_not_lt
      intro hindex
      have hlength := length_le_of_nodup hinjective
        (List.nodup_cons.mpr ⟨fun ha => h a .refl (hchain a ha), hnodup⟩)
        (List.forall_mem_cons.mpr ⟨hindex, hplaces⟩)
      rw [List.length_cons] at hlength
      omega
  | succ n ih =>
      by_cases hindex : index a < places
      · have hfresh : a ∉ trail := fun ha => h a .refl (hchain a ha)
        refine hstep n a fun b hlink => ih (h.next hlink) (List.nodup_cons.mpr ⟨hfresh, hnodup⟩)
          (List.forall_mem_cons.mpr ⟨hindex, hplaces⟩)
          (List.forall_mem_cons.mpr ⟨.single hlink, fun x hx => (hchain x hx).tail hlink⟩) ?_
        rw [List.length_cons]
        omega
      · exact houtside (n + 1) a (Nat.le_of_not_lt hindex)

/-- A recursion along links is done within as many moves as there are places: `Done n a` says that
`n` moves are enough at `a`, which holds at once outside of the places. -/
theorem done (Done : Nat → α → Prop) (hinjective : Function.Injective index)
    (houtside : ∀ n a, places ≤ index a → Done n a)
    (hstep : ∀ n a, (∀ b, link a b → Done n b) → Done (n + 1) a) (h : FreeOfCircles link a) :
    Done places a :=
  done_of_trail Done hinjective houtside hstep h .nil (by simp) (by simp) (by simp)

/-- A walk along links comes to an end. -/
theorem walk_ends {next : α → Option α} (h : FreeOfCircles link a)
    (hinjective : Function.Injective index) (hlinks : ∀ {x y}, next x = some y → link x y)
    (hplaces : ∀ x, (next x).isSome → index x < places) : (walk next places a).Ends := by
  refine done (fun n a => (walk next n a).Ends) hinjective ?_ ?_ (h.mono hlinks)
  · intro n a houtside
    have hstop : next a = none := by
      rw [← Option.not_isSome_iff_eq_none]
      exact fun hsome => absurd (hplaces a hsome) (Nat.not_lt.mpr houtside)
    cases n with
    | zero => simpa [walk, hstop] using Answer.ends_ok a
    | succ n => simpa [walk, hstop] using Answer.ends_ok a
  · intro n a ih
    rw [walk]
    cases hnext : next a with
    | none => exact Answer.ends_ok a
    | some b => exact ih b hnext

/-- It stops at some place, since no client can interrupt it. -/
theorem exists_walk {next : α → Option α} (h : FreeOfCircles link a)
    (hinjective : Function.Injective index) (hlinks : ∀ {x y}, next x = some y → link x y)
    (hplaces : ∀ x, (next x).isSome → index x < places) : ∃ b, walk next places a = .ok b := by
  rcases h.walk_ends hinjective hlinks hplaces with hcancelled | hwalk
  · exact absurd hcancelled (walk_ne_cancelled next places a)
  · exact hwalk

theorem exists_leads {next : α → Option α} (h : FreeOfCircles link a)
    (hinjective : Function.Injective index) (hlinks : ∀ {x y}, next x = some y → link x y)
    (hplaces : ∀ x, (next x).isSome → index x < places) :
    ∃ moves b, Leads next moves a b := by
  obtain ⟨b, hwalk⟩ := h.exists_walk hinjective hlinks hplaces
  obtain ⟨moves, hleads⟩ := Leads.exists_of_walk hwalk
  exact ⟨moves, b, hleads⟩

end FreeOfCircles

namespace MarkupDocument

/-- The first tag lists the second one as a child. -/
def IsChild (m : MarkupDocument) (parent child : TagId) : Prop :=
  ∃ tag, m.tag? parent = some tag ∧ child ∈ tag.children

variable {m : MarkupDocument} {offset : Nat} {id child : TagId}

theorem isChild_of_childAt? (h : m.childAt? offset id = some child) : m.IsChild id child := by
  obtain ⟨tag, htag, hfound⟩ := Option.bind_eq_some_iff.mp h
  exact ⟨tag, htag, List.mem_of_find?_eq_some hfound⟩

theorem tagAt_ends (h : ∀ {root tag}, m.rootTag? = some (root, tag) → FreeOfCircles m.IsChild root) :
    (m.tagAt offset).Ends := by
  unfold tagAt
  split
  · exact Answer.ends_ok none
  · rename_i root tag hroot
    split
    · refine ((h hroot).walk_ends TagId.index_injective isChild_of_childAt? ?_).map some
      intro id hsome
      obtain ⟨tag, htag⟩ := Option.isSome_iff_exists.mp (Option.isSome_of_isSome_bind hsome)
      exact (List.getElem?_eq_some_iff.mp htag).1
    · exact Answer.ends_ok none

end MarkupDocument

namespace Project

/-- The node stands in the syntax tree of a unit. -/
def InTree (p : Project) (id : NodeId) : Prop :=
  ∃ u root, p.ast? u = some root ∧ p.Below root id

/-- The first node is a member access with the second one as an operand. -/
def IsOperand (p : Project) (access operand : NodeId) : Prop :=
  ∃ node left right, p.node? access = some node ∧ node.kind = .memberAccess left right ∧
    (operand = left ∨ operand = right)

/-- The links that a request may follow lead round in no circle. -/
structure Acyclic (p : Project) : Prop where
  children : ∀ {u : UnitId} {root : NodeId}, p.ast? u = some root → FreeOfCircles p.IsChild root
  parents : ∀ {id : NodeId}, p.InTree id →
    FreeOfCircles (fun child parent => p.parent? child = some parent) id
  operands : ∀ {id access : NodeId}, p.InTree id → p.parent? id = some access →
    FreeOfCircles p.IsOperand access
  tags : ∀ {u : UnitId} {m : MarkupDocument} {root : TagId} {tag : MarkupTag},
    p.markup? u = some m → m.rootTag? = some (root, tag) → FreeOfCircles m.IsChild root

variable {p : Project} {u : UnitId} {root id : NodeId} {offset : Nat}

/-- A walk from node to node comes to an end if its steps are among links without circles. -/
theorem exists_walk_of_freeOfCircles {link : NodeId → NodeId → Prop}
    {next : NodeId → Option NodeId} (h : FreeOfCircles link id)
    (hlinks : ∀ {x y}, next x = some y → link x y)
    (hnext : ∀ x, (next x).isSome → (p.node? x).isSome) :
    ∃ stop, walk next p.snapshot.nodes.length id = .ok stop := by
  refine h.exists_walk NodeId.index_injective hlinks fun x hsome => ?_
  obtain ⟨node, hnode⟩ := Option.isSome_iff_exists.mp (hnext x hsome)
  exact (List.getElem?_eq_some_iff.mp hnode).1

/-- The way up to a node of some shape follows the links to parents. -/
theorem parent?_of_unless (stops : SyntaxNode → Bool) {above : NodeId}
    (h : ((p.node? id).bind fun node => if stops node then none else node.parent) = some above) :
    p.parent? id = some above := by
  obtain ⟨node, hnode, hparent⟩ := Option.bind_eq_some_iff.mp h
  split at hparent
  · cases hparent
  · rw [parent?, hnode]
    exact hparent

/-! ### Walks through the tree -/

theorem exists_innermostNode (h : FreeOfCircles p.IsChild root) (offset : Nat) :
    ∃ found, p.innermostNode root offset = .ok found := by
  unfold innermostNode
  split
  · obtain ⟨stop, hwalk⟩ := exists_walk_of_freeOfCircles h
      (fun hnext => (isChild_of_childAt? hnext).1)
      fun _ hsome => Option.isSome_of_isSome_bind hsome
    rw [hwalk]
    exact ⟨some stop, rfl⟩
  · exact ⟨none, rfl⟩

theorem exists_isInStyleBlock
    (h : FreeOfCircles (fun child parent => p.parent? child = some parent) id) :
    ∃ found, p.isInStyleBlock id = .ok found := by
  obtain ⟨stop, hwalk⟩ := exists_walk_of_freeOfCircles h
    (parent?_of_unless SyntaxNode.isStyleBlock) fun _ hsome => Option.isSome_of_isSome_bind hsome
  exact ⟨_, Answer.bind_eq_ok.mpr ⟨stop, hwalk, rfl⟩⟩

theorem exists_enclosingClass
    (h : FreeOfCircles (fun child parent => p.parent? child = some parent) id) :
    ∃ found, p.enclosingClass id = .ok found := by
  unfold enclosingClass
  split
  · exact ⟨none, rfl⟩
  · rename_i parent hparent
    obtain ⟨stop, hwalk⟩ := exists_walk_of_freeOfCircles (h.next hparent)
      (parent?_of_unless SyntaxNode.isClassDecl) fun _ hsome => Option.isSome_of_isSome_bind hsome
    exact ⟨_, Answer.bind_eq_ok.mpr ⟨stop, hwalk, rfl⟩⟩

/-! ### Names -/

theorem freeOfCircles_of_identifier? {node : SyntaxNode} {name : String}
    (hnode : p.node? id = some node) (hname : node.identifier? = some name) :
    FreeOfCircles p.IsOperand id := by
  -- An identifier has no operands, so no chain leaves it.
  have hnone : ∀ operand, ¬ p.IsOperand id operand := by
    rintro operand ⟨found, left, right, hfound, hkind, -⟩
    cases hnode.symm.trans hfound
    rw [SyntaxNode.identifier?, hkind] at hname
    cases hname
  intro b hb hcircle
  rcases Relation.ReflTransGen.cases_head hb with rfl | ⟨operand, hoperand, -⟩
  · obtain ⟨operand, hoperand, -⟩ := Relation.TransGen.head'_iff.mp hcircle
    exact hnone operand hoperand
  · exact hnone operand hoperand

/-- The name of a chain of member accesses is answered within as many accesses as there are nodes. -/
theorem dottedName_ends (h : FreeOfCircles p.IsOperand id) :
    (p.dottedName p.snapshot.nodes.length id).Ends := by
  refine FreeOfCircles.done (fun depth id => (p.dottedName depth id).Ends) NodeId.index_injective
    ?_ ?_ h
  · intro depth id houtside
    have hnode : p.node? id = none := List.getElem?_eq_none houtside
    unfold dottedName
    rw [hnode]
    exact Answer.ends_ok none
  · intro depth id ih
    unfold dottedName
    cases hnode : p.node? id with
    | none => exact Answer.ends_ok none
    | some node =>
      dsimp only
      split
      · exact Answer.ends_ok _
      · rename_i left right hkind
        refine (ih left ⟨node, left, right, hnode, hkind, Or.inl rfl⟩).bind fun front _ => ?_
        cases front with
        | none => exact Answer.ends_ok none
        | some front =>
            exact (ih right ⟨node, left, right, hnode, hkind, Or.inr rfl⟩).bind
              fun back _ => Answer.ends_ok _
      · exact Answer.ends_ok none

theorem qualifier_ends
    (h : ∀ {access : NodeId}, p.parent? id = some access → FreeOfCircles p.IsOperand access) :
    (p.qualifier id).Ends := by
  unfold qualifier
  dsimp only
  split
  · exact Answer.ends_ok none
  · rename_i access left right haccess
    obtain ⟨node, hnode, haccess⟩ := Option.bind_eq_some_iff.mp haccess
    obtain ⟨name, hname, haccess⟩ := Option.bind_eq_some_iff.mp haccess
    obtain ⟨parent, hparent, haccess⟩ := Option.bind_eq_some_iff.mp haccess
    obtain ⟨parentNode, -, haccess⟩ := Option.bind_eq_some_iff.mp haccess
    obtain ⟨operands, -, haccess⟩ := Option.bind_eq_some_iff.mp haccess
    cases haccess
    split
    · have hparent' : p.parent? id = some access := by
        rw [parent?, hnode]
        exact hparent
      exact dottedName_ends (h hparent')
    · split
      · exact dottedName_ends (freeOfCircles_of_identifier? hnode hname)
      · exact Answer.ends_ok none

theorem qualified_ends_of_operands
    (h : ∀ {access : NodeId}, p.parent? id = some access → FreeOfCircles p.IsOperand access) :
    (p.qualified id).Ends :=
  (qualifier_ends h).bind fun _ _ => Answer.ends_ok _

namespace Acyclic

theorem innermostNode_ends (h : p.Acyclic) (hast : p.ast? u = some root) :
    (p.innermostNode root offset).Ends :=
  Or.inr (exists_innermostNode (h.children hast) offset)

theorem offsetTarget_ends (h : p.Acyclic) : (p.offsetTarget u offset).Ends := by
  unfold offsetTarget
  split
  · exact Answer.ends_ok _
  · split
    · exact Answer.ends_ok _
    · rename_i root hast
      refine (h.innermostNode_ends hast).bind fun found _ => ?_
      cases found with
      | some node => exact Answer.ends_ok _
      | none => exact Answer.ends_ok _

theorem embeddedNode_ends {tag : MarkupTag} (h : p.Acyclic) :
    (p.embeddedNode u tag offset).Ends := by
  unfold embeddedNode
  split
  · rename_i root _ hast
    exact (h.innermostNode_ends hast).bind fun found _ => Answer.ends_ok _
  · exact Answer.ends_ok none

theorem markupTarget_ends (h : p.Acyclic) : (p.markupTarget u offset).Ends := by
  unfold markupTarget
  split
  · exact Answer.ends_ok _
  · rename_i m hm
    refine (MarkupDocument.tagAt_ends (h.tags hm)).bind fun found _ => ?_
    split
    · exact Answer.ends_ok _
    · split
      · exact Answer.ends_ok _
      · refine h.embeddedNode_ends.bind fun node _ => ?_
        cases node with
        | some node => exact Answer.ends_ok _
        | none => exact Answer.ends_ok _

theorem isInStyleBlock_ends (h : p.Acyclic) (hid : p.InTree id) : (p.isInStyleBlock id).Ends :=
  Or.inr (exists_isInStyleBlock (h.parents hid))

theorem enclosingClass_ends (h : p.Acyclic) (hid : p.InTree id) : (p.enclosingClass id).Ends :=
  Or.inr (exists_enclosingClass (h.parents hid))

theorem keywordTarget_ends {word : Keyword} (h : p.Acyclic) (hid : p.InTree id) :
    (p.keywordTarget id word).Ends :=
  (h.enclosingClass_ends hid).bind fun _ _ => Answer.ends_ok _

theorem qualified_ends (h : p.Acyclic) (hid : p.InTree id) : (p.qualified id).Ends :=
  qualified_ends_of_operands fun hparent => h.operands hid hparent

end Acyclic

end Project

namespace Resolver

variable {r : Resolver} {p : Project} {id : NodeId}

/-- A resolver comes to an end with an identifier if each of its fallbacks does. -/
theorem identifier_ends (h : ∀ fallback ∈ r.fallbacks, (fallback p id).Ends) :
    (r.identifier p id).Ends := by
  unfold identifier
  split
  · exact Answer.ends_ok _
  · exact Answer.ends_findSomeM? h

theorem bindingsOnly_ends : (bindingsOnly.identifier p id).Ends :=
  identifier_ends fun _ hfallback => absurd hfallback List.not_mem_nil

/-- The standard resolver may follow the operands of the member access around an identifier. -/
theorem standard_ends
    (h : ∀ {access : NodeId}, p.parent? id = some access → FreeOfCircles p.IsOperand access) :
    (standard.identifier p id).Ends := by
  apply identifier_ends
  intro fallback hfallback
  obtain rfl := List.mem_singleton.mp hfallback
  exact Project.qualified_ends_of_operands h

end Resolver

end SymbolNav
