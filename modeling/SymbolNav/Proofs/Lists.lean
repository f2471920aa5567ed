import Mathlib.Data.List.Basic

/-!
# Lists that grow and change in one place

A draft keeps what it has found in lists. A step adds an item at the end, so that earlier items keep
their places, or changes the item in one place. These are the facts about such lists that do not
depend on what the items are.
-/

namespace SymbolNav

variable {α β γ : Type} {items : List α} {a b : α} {i j : Nat}

/-! ### An item more -/

theorem getElem?_concat (items : List α) (a : α) (i : Nat) :
    (items ++ [a])[i]? = if i = items.length then some a else items[i]? := by
  grind

theorem getElem?_concat_eq_some :
    (items ++ [a])[i]? = some b ↔ items[i]? = some b ∨ i = items.length ∧ a = b := by
  grind

theorem getElem?_of_prefix {more : List α} (h : items <+: more) (ha : items[i]? = some a) :
    more[i]? = some a := by
  obtain ⟨rest, rfl⟩ := h
  rwa [List.getElem?_append_left (List.getElem?_eq_some_iff.mp ha).1]

/-! ### A change in one place -/

theorem getElem?_modify_eq_some {f : α → α} :
    (items.modify i f)[j]? = some b ↔
      i ≠ j ∧ items[j]? = some b ∨ i = j ∧ ∃ a, items[i]? = some a ∧ f a = b := by
  grind

theorem modify_eq_self {f : α → α} (ha : items[i]? = some a) (hf : f a = a) :
    items.modify i f = items := by
  apply List.ext_getElem?
  intro j
  rw [List.getElem?_modify]
  by_cases hij : i = j
  · subst hij
    simp [ha, hf]
  · simp [hij]

theorem modify_concat (items : List α) (a : α) (f : α → α) :
    (items ++ [a]).modify items.length f = items ++ [f a] :=
  List.modifyTailIdx_add _ 0 items [a]

/-- A change of the items is a change of what is seen of them. -/
theorem map_modify_comm {f : α → α} {f' : β → β} {g : α → β} (h : ∀ a, g (f a) = f' (g a)) :
    (items.modify i f).map g = (items.map g).modify i f' := by
  apply List.ext_getElem?
  intro j
  rw [List.getElem?_map, List.getElem?_modify, List.getElem?_modify, List.getElem?_map]
  cases items[j]? with
  | none => rfl
  | some a =>
      by_cases hij : i = j
      · simp [hij, h]
      · simp [hij]

theorem map_modify_of_forall {f : α → α} {g : α → β} (h : ∀ a, g (f a) = g a) :
    (items.modify i f).map g = items.map g := by
  have hview : (items.modify i f).map g = (items.map g).modify i id := map_modify_comm h
  rw [hview, List.modify_id]

theorem map_foldl_modify {place : β → Nat} {f : α → α} {g : α → γ} (h : ∀ a, g (f a) = g a)
    (places : List β) (items : List α) :
    (places.foldl (fun items b => items.modify (place b) f) items).map g = items.map g := by
  induction places generalizing items with
  | nil => rfl
  | cons b places ih => rw [List.foldl_cons, ih, map_modify_of_forall h]

/-! ### A result for every item -/

theorem mapM_of_forall {f : α → Option β} {g : α → β} (h : ∀ a ∈ items, f a = some (g a)) :
    items.mapM f = some (items.map g) := by
  induction items with
  | nil => rfl
  | cons a items ih =>
      obtain ⟨ha, hitems⟩ := List.forall_mem_cons.mp h
      rw [List.mapM_cons, ha, ih hitems]
      rfl

end SymbolNav
