import SymbolNav.Navigation.Answer

/-!
# Taking answers apart

A request that is answered has had an answer at every step on the way. The statements here recover
the answers of the steps from the answer of the whole, for one step after another and for a step
that is made for each element of a list. In the other direction, a request comes to an end if each
of its steps does.
-/

namespace SymbolNav.Answer

variable {α β : Type}

theorem bind_eq_ok {x : Answer α} {f : α → Answer β} {b : β} :
    x >>= f = .ok b ↔ ∃ a, x = .ok a ∧ f a = .ok b := by
  cases x with
  | error e => simp [bind, Except.bind]
  | ok a => simp [bind, Except.bind]

theorem toOption_eq_some {x : Answer α} {a : α} : x.toOption = some a ↔ x = .ok a := by
  cases x with
  | error e => simp [Except.toOption]
  | ok b => simp [Except.toOption]

theorem mapM_cons_eq_ok {f : α → Answer β} {a : α} {as : List α} {bs : List β}
    (h : (a :: as).mapM f = .ok bs) :
    ∃ b rest, f a = .ok b ∧ as.mapM f = .ok rest ∧ bs = b :: rest := by
  rw [List.mapM_cons, bind_eq_ok] at h
  obtain ⟨b, hb, h⟩ := h
  obtain ⟨rest, hrest, h⟩ := bind_eq_ok.mp h
  cases h
  exact ⟨b, rest, hb, hrest, rfl⟩

/-- If each element has been answered for, so has any one of them. -/
theorem exists_ok_of_mapM {f : α → Answer β} {as : List α} {bs : List β}
    (h : as.mapM f = .ok bs) {a : α} (ha : a ∈ as) : ∃ b, f a = .ok b := by
  induction as generalizing bs with
  | nil => exact absurd ha List.not_mem_nil
  | cons first as ih =>
      obtain ⟨b, rest, hb, hrest, -⟩ := mapM_cons_eq_ok h
      rcases List.mem_cons.mp ha with rfl | ha
      · exact ⟨b, hb⟩
      · exact ih hrest ha

/-- The answers for all elements, put together, hold what the answer for some element holds. -/
theorem mem_flatten_mapM {f : α → Answer (List β)} {as : List α} {bss : List (List β)}
    (h : as.mapM f = .ok bss) {b : β} :
    b ∈ bss.flatten ↔ ∃ a ∈ as, ∃ bs, f a = .ok bs ∧ b ∈ bs := by
  induction as generalizing bss with
  | nil =>
      cases h
      simp
  | cons first as ih =>
      obtain ⟨bs, rest, hbs, hrest, rfl⟩ := mapM_cons_eq_ok h
      rw [List.flatten_cons, List.mem_append, ih hrest]
      simp [hbs]

/-! ### Steps that answer alike -/

theorem foldlM_congr {f g : β → α → Answer β} {as : List α} (h : ∀ b, ∀ a ∈ as, f b a = g b a)
    (b : β) : as.foldlM f b = as.foldlM g b := by
  induction as generalizing b with
  | nil => rfl
  | cons a as ih =>
      rw [List.foldlM_cons, List.foldlM_cons, h b a List.mem_cons_self]
      exact congrArg _ (funext fun c => ih (fun c a ha => h c a (List.mem_cons_of_mem _ ha)) c)

theorem mapM_congr {f g : α → Answer β} {as : List α} (h : ∀ a ∈ as, f a = g a) :
    as.mapM f = as.mapM g := by
  induction as with
  | nil => rfl
  | cons a as ih =>
      rw [List.mapM_cons, List.mapM_cons, h a List.mem_cons_self,
        ih fun c hc => h c (List.mem_cons_of_mem _ hc)]

/-- Answers to a list of lists are put together at once or list by list. -/
theorem map_flatten_mapM_flatMap {γ : Type} (f : α → List β) (g : β → Answer (List γ))
    (as : List α) :
    ((as.flatMap f).mapM g).map List.flatten =
      (as.mapM fun a => ((f a).mapM g).map List.flatten).map List.flatten := by
  induction as with
  | nil => rfl
  | cons a as ih =>
      rw [List.flatMap_cons, List.mapM_append, List.mapM_cons]
      cases (f a).mapM g with
      | error e => rfl
      | ok first =>
          calc
            _ = (((as.flatMap f).mapM g).map List.flatten).map (first.flatten ++ ·) := by
                cases (as.flatMap f).mapM g with
                | error e => rfl
                | ok rest => exact congrArg Except.ok List.flatten_append
            _ = ((as.mapM fun a => ((f a).mapM g).map List.flatten).map List.flatten).map
                (first.flatten ++ ·) := by rw [ih]
            _ = _ := by
                cases as.mapM fun a => ((f a).mapM g).map List.flatten with
                | error e => rfl
                | ok parts => rfl

theorem findSomeM?_congr {f g : α → Answer (Option β)} {as : List α} (h : ∀ a ∈ as, f a = g a) :
    as.findSomeM? f = as.findSomeM? g := by
  induction as with
  | nil => rfl
  | cons a as ih =>
      rw [List.findSomeM?, List.findSomeM?, h a List.mem_cons_self,
        ih fun c hc => h c (List.mem_cons_of_mem _ hc)]

/-! ### Steps that come to an end -/

/-- The request comes to an end: with a value, or because it has been cancelled. -/
def Ends (x : Answer α) : Prop :=
  x = .error .cancelled ∨ ∃ a, x = .ok a

theorem ends_ok (a : α) : Ends (.ok a) := Or.inr ⟨a, rfl⟩

/-- A step and what follows on its value. -/
theorem Ends.bind {x : Answer α} {f : α → Answer β} (hx : Ends x)
    (hf : ∀ a, x = .ok a → Ends (f a)) : Ends (x >>= f) := by
  rcases hx with rfl | ⟨a, rfl⟩
  · exact Or.inl rfl
  · exact hf a rfl

theorem Ends.map {x : Answer α} (f : α → β) (hx : Ends x) : Ends (x.map f) := by
  rcases hx with rfl | ⟨a, rfl⟩
  · exact Or.inl rfl
  · exact ends_ok (f a)

theorem ends_mapM {f : α → Answer β} {as : List α} (h : ∀ a ∈ as, Ends (f a)) :
    Ends (as.mapM f) := by
  induction as with
  | nil => exact ends_ok []
  | cons a as ih =>
      rw [List.mapM_cons]
      refine (h a List.mem_cons_self).bind fun b _ => ?_
      refine (ih fun c hc => h c (List.mem_cons_of_mem _ hc)).bind fun rest _ => ?_
      exact ends_ok (b :: rest)

theorem ends_foldlM {f : β → α → Answer β} {as : List α} (h : ∀ b, ∀ a ∈ as, Ends (f b a)) (b : β) :
    Ends (as.foldlM f b) := by
  induction as generalizing b with
  | nil => exact ends_ok b
  | cons a as ih =>
      rw [List.foldlM_cons]
      exact (h b a List.mem_cons_self).bind fun c _ =>
        ih (fun c a ha => h c a (List.mem_cons_of_mem _ ha)) c

theorem ends_findSomeM? {f : α → Answer (Option β)} {as : List α} (h : ∀ a ∈ as, Ends (f a)) :
    Ends (as.findSomeM? f) := by
  induction as with
  | nil => exact ends_ok none
  | cons a as ih =>
      rw [List.findSomeM?]
      refine (h a List.mem_cons_self).bind fun found _ => ?_
      cases found with
      | some b => exact ends_ok (some b)
      | none => exact ih fun c hc => h c (List.mem_cons_of_mem _ hc)

end SymbolNav.Answer
