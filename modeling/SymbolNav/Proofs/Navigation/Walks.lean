import Mathlib.Data.List.Nodup
import Mathlib.Data.List.Perm.Subperm
import SymbolNav.Navigation.Answer

/-!
# Walks that come to an end

`Leads` is what a walk means when nothing bounds its moves: the step is followed from place to place
until there is none. It has one end and one length. No place is visited twice on the way, since a
walk that comes back goes round for ever; so a walk among `n` places that ends makes at most `n`
moves, and the bounded walk is answered.
-/

namespace SymbolNav

/-- From the first place the step leads to the second one in the given number of moves, and stops
there. -/
inductive Leads {α : Type} (next : α → Option α) : Nat → α → α → Prop where
  | stop {a : α} (h : next a = none) : Leads next 0 a a
  | move {n : Nat} {a b c : α} (h : next a = some b) (rest : Leads next n b c) :
      Leads next (n + 1) a c

/-- A walk goes on for ever or stops, whatever its client does. -/
theorem walk_ne_cancelled {α : Type} (next : α → Option α) (moves : Nat) (a : α) :
    walk next moves a ≠ .error .cancelled := by
  induction moves generalizing a with
  | zero =>
      unfold walk
      split <;> simp
  | succ moves ih =>
      unfold walk
      split
      · simp
      · exact ih _

/-- Different places with different numbers below a bound are no more than the bound. -/
theorem length_le_of_nodup {α : Type} {index : α → Nat} {places : Nat} {trail : List α}
    (hinjective : Function.Injective index) (hnodup : trail.Nodup)
    (hplaces : ∀ x ∈ trail, index x < places) : trail.length ≤ places := by
  have hsubset : trail.map index ⊆ List.range places := by
    intro i hi
    obtain ⟨x, hx, rfl⟩ := List.mem_map.mp hi
    exact List.mem_range.mpr (hplaces x hx)
  have hlength := ((hnodup.map hinjective).subperm hsubset).length_le
  rwa [List.length_map, List.length_range] at hlength

namespace Leads

variable {α : Type} {next : α → Option α} {n m : Nat} {a b c : α}

theorem length_unique (h : Leads next n a b) (h' : Leads next m a c) : n = m := by
  induction h generalizing m with
  | stop hstop =>
      cases h' with
      | stop => rfl
      | move hmove => exact absurd (hstop.symm.trans hmove) (by simp)
  | move hmove _ ih =>
      cases h' with
      | stop hstop => exact absurd (hstop.symm.trans hmove) (by simp)
      | move hmove' rest' =>
          obtain rfl := Option.some.inj (hmove.symm.trans hmove')
          exact congrArg (· + 1) (ih rest')

theorem next_eq_none (h : Leads next n a b) : next b = none := by
  induction h with
  | stop hstop => exact hstop
  | move _ _ ih => exact ih

/-- A bounded walk is answered if its bound allows for all moves. -/
theorem walk_eq (h : Leads next n a b) (hm : n ≤ m) : walk next m a = .ok b := by
  induction h generalizing m with
  | stop hstop => cases m <;> simp [walk, hstop]
  | move hmove _ ih =>
      obtain ⟨m, rfl⟩ : ∃ k, m = k + 1 := ⟨m - 1, by omega⟩
      rw [walk, hmove]
      exact ih (by omega)

/-- The places that are left on the way are all different: each is at its own distance from the
end. -/
theorem exists_trail (h : Leads next n a b) :
    ∃ trail : List α, trail.length = n ∧ trail.Nodup ∧
      ∀ x ∈ trail, (next x).isSome ∧ ∃ k ≤ n, Leads next k x b := by
  induction h with
  | stop => exact ⟨[], rfl, .nil, fun _ hx => absurd hx List.not_mem_nil⟩
  | @move n a _ b hmove rest ih =>
      obtain ⟨trail, rfl, hnodup, htrail⟩ := ih
      have hfirst : Leads next (trail.length + 1) a b := .move hmove rest
      refine ⟨a :: trail, rfl, List.nodup_cons.mpr ⟨?_, hnodup⟩, ?_⟩
      · intro ha
        obtain ⟨-, k, hk, hleads⟩ := htrail a ha
        have hlength := hfirst.length_unique hleads
        omega
      · intro x hx
        rcases List.mem_cons.mp hx with rfl | hx
        · exact ⟨by simp [hmove], _, Nat.le_refl _, hfirst⟩
        · obtain ⟨hsome, k, hk, hleads⟩ := htrail x hx
          exact ⟨hsome, k, by omega, hleads⟩

/-- Among finitely many places with a way on, a walk that ends makes no more moves than there are
such places. -/
theorem walk_eq_of_places {index : α → Nat} {places : Nat} (hinjective : Function.Injective index)
    (hplaces : ∀ x, (next x).isSome → index x < places) (h : Leads next n a b) :
    walk next places a = .ok b := by
  apply h.walk_eq
  obtain ⟨trail, rfl, hnodup, htrail⟩ := h.exists_trail
  exact length_le_of_nodup hinjective hnodup fun x hx => hplaces x (htrail x hx).1

/-- A bounded walk that is answered has come to the end of the way. -/
theorem exists_of_walk (h : walk next m a = .ok b) : ∃ n, Leads next n a b := by
  induction m generalizing a with
  | zero =>
      unfold walk at h
      split at h
      · rename_i hstop
        cases h
        exact ⟨0, .stop hstop⟩
      · cases h
  | succ m ih =>
      unfold walk at h
      split at h
      · rename_i hstop
        cases h
        exact ⟨0, .stop hstop⟩
      · rename_i c hmove
        obtain ⟨n, hleads⟩ := ih h
        exact ⟨n + 1, .move hmove hleads⟩

end Leads

end SymbolNav
