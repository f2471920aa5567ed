import Mathlib.Data.List.Nodup
import SymbolNav.Proofs.Navigation.Circles
import SymbolNav.Rename.Occurrences

/-!
# The order in which a tree is searched

The search for occurrences looks at a node and then at what lies below each of its children. Where
children lead round in no circle, this is one look after the other along a list of nodes, the
`preorder` of the tree, and the list holds what lies below the root. Where in addition each node is
listed once, by one node only, no node stands twice in it: the parts below two children of a node
share nothing, since on the way up from a shared node one child would lie below the other one, and
their parent below itself.
-/

namespace SymbolNav

namespace Project

/-- A node and what lies below it, at most `depth` nodes deep, each node before its children. -/
def preorder (p : Project) : (depth : Nat) → NodeId → List NodeId
  | depth, id =>
    match p.node? id with
    | none => []
    | some node =>
      match depth with
      | 0 => []
      | depth + 1 => id :: node.children.flatMap (p.preorder depth)

/-- Each node is listed once as a child, by one node, and no node lies below itself. -/
structure Branching (p : Project) : Prop where
  once : ∀ {id : NodeId} {node : SyntaxNode}, p.node? id = some node → node.children.Nodup
  one : ∀ {first second child : NodeId}, p.IsChild first child → p.IsChild second child →
    first = second
  free : ∀ id : NodeId, FreeOfCircles p.IsChild id

variable {p : Project} {depth : Nat} {root id : NodeId} {node : SyntaxNode}

theorem preorder_eq_nil (hnode : p.node? root = none) : p.preorder depth root = [] := by
  unfold preorder
  rw [hnode]

theorem preorder_succ (hnode : p.node? root = some node) :
    p.preorder (depth + 1) root = root :: node.children.flatMap (p.preorder depth) := by
  rw [preorder, hnode]

theorem below_of_mem_preorder (h : id ∈ p.preorder depth root) :
    p.Below root id ∧ (p.node? id).isSome := by
  induction depth generalizing root with
  | zero =>
      unfold preorder at h
      split at h <;> cases h
  | succ depth ih =>
      cases hnode : p.node? root with
      | none =>
          rw [preorder_eq_nil hnode] at h
          cases h
      | some node =>
          rw [preorder_succ hnode, List.mem_cons, List.mem_flatMap] at h
          rcases h with rfl | ⟨child, hchild, hmem⟩
          · rw [hnode]
            exact ⟨.refl, rfl⟩
          · obtain ⟨hbelow, hsome⟩ := ih hmem
            exact ⟨.head ⟨node, hnode, hchild⟩ hbelow, hsome⟩

theorem exists_node_of_below (hbelow : p.Below root id) (hid : p.node? id = some node) :
    ∃ top, p.node? root = some top := by
  rcases Relation.ReflTransGen.cases_head hbelow with rfl | ⟨child, ⟨top, htop, -⟩, -⟩
  · exact ⟨node, hid⟩
  · exact ⟨top, htop⟩

/-- As many nodes deep as there are nodes, nothing below the root is left out. -/
theorem mem_preorder_of_below (h : FreeOfCircles p.IsChild root) (hbelow : p.Below root id)
    (hid : p.node? id = some node) : id ∈ p.preorder p.snapshot.nodes.length root := by
  refine FreeOfCircles.done (fun depth root => p.Below root id → id ∈ p.preorder depth root)
    NodeId.index_injective ?_ ?_ h hbelow
  · intro depth root houtside hbelow
    obtain ⟨top, htop⟩ := exists_node_of_below hbelow hid
    exact absurd (List.getElem?_eq_some_iff.mp htop).1 (Nat.not_lt.mpr houtside)
  · intro depth root ih hbelow
    obtain ⟨top, htop⟩ := exists_node_of_below hbelow hid
    rw [preorder_succ htop, List.mem_cons, List.mem_flatMap]
    rcases (below_iff htop).mp hbelow with rfl | ⟨child, hchild, hbelow⟩
    · exact Or.inl rfl
    · exact Or.inr ⟨child, hchild, ih child ⟨top, htop, hchild⟩ hbelow⟩

namespace Branching

variable {first second : NodeId}

/-- Of two nodes above the same one, one lies below the other. -/
theorem below_or_below (h : p.Branching) (hfirst : p.Below first id) (hsecond : p.Below second id) :
    p.Below first second ∨ p.Below second first := by
  have hunique : Relator.RightUnique (Function.swap p.IsChild) := fun _ _ _ => h.one
  have hup {above : NodeId} (hbelow : p.Below above id) :
      Relation.ReflTransGen (Function.swap p.IsChild) id above :=
    Relation.reflTransGen_swap.mpr hbelow
  rcases Relation.ReflTransGen.total_of_right_unique hunique (hup hfirst) (hup hsecond) with
    hway | hway
  · exact Or.inr (Relation.reflTransGen_swap.mp hway)
  · exact Or.inl (Relation.reflTransGen_swap.mp hway)

/-- No child of a node lies below another one. -/
theorem eq_of_below (h : p.Branching) (hfirst : p.IsChild root first)
    (hsecond : p.IsChild root second) (hbelow : p.Below first second) : first = second := by
  rcases Relation.ReflTransGen.cases_tail hbelow with heq | ⟨above, hbelow, hchild⟩
  · exact heq.symm
  · obtain rfl := h.one hchild hsecond
    exact absurd (Relation.TransGen.head' hfirst hbelow) (h.free above above .refl)

theorem nodup_preorder (h : p.Branching) (depth : Nat) (root : NodeId) :
    (p.preorder depth root).Nodup := by
  induction depth generalizing root with
  | zero =>
      unfold preorder
      split <;> exact List.nodup_nil
  | succ depth ih =>
      cases hnode : p.node? root with
      | none =>
          rw [preorder_eq_nil hnode]
          exact List.nodup_nil
      | some node =>
          rw [preorder_succ hnode, List.nodup_cons, List.nodup_flatMap]
          refine ⟨?_, fun child _ => ih child, (h.once hnode).imp_of_mem ?_⟩
          · intro hmem
            obtain ⟨child, hchild, hmem⟩ := List.mem_flatMap.mp hmem
            exact h.free root root .refl
              (.head' ⟨node, hnode, hchild⟩ (below_of_mem_preorder hmem).1)
          · intro first second hfirst hsecond hne id hin hin'
            have hfirst : p.IsChild root first := ⟨node, hnode, hfirst⟩
            have hsecond : p.IsChild root second := ⟨node, hnode, hsecond⟩
            rcases h.below_or_below (below_of_mem_preorder hin).1
              (below_of_mem_preorder hin').1 with hbelow | hbelow
            · exact hne (h.eq_of_below hfirst hsecond hbelow)
            · exact hne (h.eq_of_below hsecond hfirst hbelow).symm

end Branching

end Project

namespace Context

variable {ctx : Context} {targets : List DefId} {u : UnitId} {root id : NodeId}

/-- One look of the search. -/
def lookAt (ctx : Context) (targets : List DefId) (id : NodeId) : Answer (List Span) :=
  match ctx.project.node? id with
  | none => .ok []
  | some node => ctx.nodeOccurrence targets id node

theorem lookAt_ends (h : (ctx.resolver.identifier ctx.project id).Ends) :
    (ctx.lookAt targets id).Ends := by
  unfold lookAt
  split
  · exact Answer.ends_ok []
  · unfold nodeOccurrence
    split
    · exact h.bind fun _ _ => Answer.ends_ok _
    · exact Answer.ends_ok []

/-- The search of a tree is one look after the other. -/
theorem treeOccurrences_eq_preorder (h : FreeOfCircles ctx.project.IsChild root) :
    ctx.treeOccurrences targets ctx.project.snapshot.nodes.length root =
      ((ctx.project.preorder ctx.project.snapshot.nodes.length root).mapM
        (ctx.lookAt targets)).map List.flatten := by
  refine FreeOfCircles.done
    (fun depth root => ctx.treeOccurrences targets depth root =
      ((ctx.project.preorder depth root).mapM (ctx.lookAt targets)).map List.flatten)
    NodeId.index_injective ?_ ?_ h
  · intro depth root houtside
    have hnode : ctx.project.node? root = none := List.getElem?_eq_none houtside
    rw [Project.preorder_eq_nil hnode]
    unfold treeOccurrences
    rw [hnode]
    rfl
  · intro depth root ih
    unfold treeOccurrences
    cases hnode : ctx.project.node? root with
    | none =>
        rw [Project.preorder_eq_nil hnode]
        rfl
    | some node =>
        have hbelow : node.children.mapM (ctx.treeOccurrences targets depth) =
            node.children.mapM fun child =>
              ((ctx.project.preorder depth child).mapM (ctx.lookAt targets)).map List.flatten :=
          Answer.mapM_congr fun child hchild => ih child ⟨node, hnode, hchild⟩
        have hlook : ctx.lookAt targets root = ctx.nodeOccurrence targets root node := by
          rw [lookAt, hnode]
        dsimp only
        rw [Project.preorder_succ hnode, List.mapM_cons, hlook, hbelow]
        cases ctx.nodeOccurrence targets root node with
        | error e => rfl
        | ok own =>
            calc
              _ = ((node.children.mapM fun child => ((ctx.project.preorder depth child).mapM
                    (ctx.lookAt targets)).map List.flatten).map List.flatten).map (own ++ ·) := by
                  cases node.children.mapM fun child => ((ctx.project.preorder depth child).mapM
                    (ctx.lookAt targets)).map List.flatten with
                  | error e => rfl
                  | ok parts => rfl
              _ = (((node.children.flatMap (ctx.project.preorder depth)).mapM
                    (ctx.lookAt targets)).map List.flatten).map (own ++ ·) := by
                  rw [Answer.map_flatten_mapM_flatMap]
              _ = _ := by
                  cases (node.children.flatMap (ctx.project.preorder depth)).mapM
                    (ctx.lookAt targets) with
                  | error e => rfl
                  | ok rest => rfl

theorem scriptOccurrences_eq_preorder (hast : ctx.project.ast? u = some root)
    (h : FreeOfCircles ctx.project.IsChild root) :
    ctx.scriptOccurrences u targets =
      ((ctx.project.preorder ctx.project.snapshot.nodes.length root).mapM
        (ctx.lookAt targets)).map List.flatten := by
  rw [scriptOccurrences, hast]
  exact treeOccurrences_eq_preorder h

/-- The search comes to an end if it can find out at each node what the node refers to. -/
theorem scriptOccurrences_ends_of_lookups (hast : ctx.project.ast? u = some root)
    (h : FreeOfCircles ctx.project.IsChild root)
    (hlookups : ∀ id, ctx.project.Below root id → (ctx.resolver.identifier ctx.project id).Ends) :
    (ctx.scriptOccurrences u targets).Ends := by
  rw [scriptOccurrences_eq_preorder hast h]
  apply Answer.Ends.map
  apply Answer.ends_mapM
  intro id hmem
  exact lookAt_ends (hlookups id (Project.below_of_mem_preorder hmem).1)

end Context

end SymbolNav
