import Mathlib.Data.Prod.Lex
import SymbolNav.Navigation.Scope

/-!
# What a qualified name denotes

A definition at package level has a place: its unit, the place of its package in the file scope of
the unit, and its place among the members of the package. A package has the first two. `Denotes`
says what a qualified name stands for by these places alone, and the look-up by name answers just
this: a definition at package level that comes first, and only where there is none in any unit, the
first package.

The look-up searches lists of lists. `FirstOf` says what a search finds by the places of what it
searches; the places in a list of lists are ordered first by the outer and then by the inner list.
-/

namespace SymbolNav

/-! ### Searching in the order of places -/

/-- What a search for a property finds: the first of what stands at some place and has the property,
or nothing if nothing has it. -/
def FirstOf {ι β : Type} [LT ι] (At : ι → β → Prop) (property : β → Bool) : Option β → Prop
  | none => ∀ i b, At i b → property b = false
  | some b => property b = true ∧ ∃ i, At i b ∧ ∀ j < i, ∀ c, At j c → property c = false

section

variable {ι α β : Type} {At At' : ι → β → Prop} {property : β → Bool}

theorem FirstOf.congr [LT ι] {found : Option β} (h : ∀ i b, At i b ↔ At' i b)
    (hfound : FirstOf At property found) : FirstOf At' property found := by
  obtain rfl : At = At' := funext fun i => funext fun b => propext (h i b)
  exact hfound

/-- A search finds one thing, if one thing at most stands at each place. -/
theorem FirstOf.unique [LinearOrder ι] {found found' : Option β} (h : FirstOf At property found)
    (h' : FirstOf At property found') (hplaces : ∀ i b c, At i b → At i c → b = c) :
    found = found' := by
  cases found with
  | none =>
      cases found' with
      | none => rfl
      | some c =>
          obtain ⟨hc, i, hat, -⟩ := h'
          exact absurd hc (by simp [h i c hat])
  | some b =>
      obtain ⟨hb, i, hat, hbefore⟩ := h
      cases found' with
      | none => exact absurd hb (by simp [h' i b hat])
      | some c =>
          obtain ⟨hc, j, hat', hbefore'⟩ := h'
          rcases lt_trichotomy i j with hlt | rfl | hlt
          · exact absurd hb (by simp [hbefore' i hlt b hat])
          · rw [hplaces i b c hat hat']
          · exact absurd hc (by simp [hbefore j hlt c hat'])

theorem firstOf_find? (bs : List β) :
    FirstOf (fun (i : Nat) b => bs[i]? = some b) property (bs.find? property) := by
  cases hfound : bs.find? property with
  | none =>
      intro i b hb
      simpa using List.find?_eq_none.mp hfound b (List.mem_of_getElem? hb)
  | some b =>
      obtain ⟨hb, front, back, rfl, hfront⟩ := List.find?_eq_some_iff_append.mp hfound
      refine ⟨hb, front.length, by simp, fun j hj c hc => ?_⟩
      replace hc : (front ++ b :: back)[j]? = some c := hc
      rw [List.getElem?_append_left hj] at hc
      simpa using hfront c (List.mem_of_getElem? hc)

/-- Where a search of each inner list goes by places, a search of them one after the other goes by
the places of the inner lists first. -/
theorem firstOf_find?_flatMap [LT ι] {as : List α} {inner : α → List β} {At : α → ι → β → Prop}
    (h : ∀ a ∈ as, FirstOf (At a) property ((inner a).find? property)) :
    FirstOf (fun (place : Nat ×ₗ ι) b =>
        ∃ a, as[(ofLex place).1]? = some a ∧ At a (ofLex place).2 b)
      property ((as.flatMap inner).find? property) := by
  rw [List.find?_flatMap]
  cases hfound : as.findSome? fun a => (inner a).find? property with
  | none =>
      rintro place b ⟨a, ha, hb⟩
      have hmem := List.mem_of_getElem? ha
      have hfirst := h a hmem
      rw [List.findSome?_eq_none_iff.mp hfound a hmem] at hfirst
      exact hfirst _ b hb
  | some b =>
      obtain ⟨front, a, back, rfl, ha, hfront⟩ := List.findSome?_eq_some_iff.mp hfound
      have hfirst := h a (by simp)
      rw [ha] at hfirst
      obtain ⟨hb, i, hat, hbefore⟩ := hfirst
      refine ⟨hb, toLex (front.length, i), ⟨a, by simp, hat⟩, ?_⟩
      rintro place hplace c ⟨a', ha', hc⟩
      rcases Prod.Lex.lt_iff.mp hplace with hlt | ⟨heq, hlt⟩
      · -- An inner list in front of the one that has been found holds nothing.
        rw [List.getElem?_append_left hlt] at ha'
        have hmem := List.mem_of_getElem? ha'
        have hnone := h a' (by simp [hmem])
        rw [hfront a' hmem] at hnone
        exact hnone _ c hc
      · change (ofLex place).1 = front.length at heq
        rw [heq] at ha'
        obtain rfl : a = a' := by simpa using ha'
        exact hbefore _ hlt c hc

end

namespace Project

variable {p : Project} {u : UnitId} {name : String} {d : DefId} {found : Option DefId}

/-! ### Places of definitions -/

/-- The definition stands in the file scope of a unit. Nothing stands in a scope that is not known.
-/
def InScopeAt (p : Project) (place : Nat ×ₗ Nat) (d : DefId) : Prop :=
  ∃ scope, p.fileScope ⟨(ofLex place).1⟩ = .ok scope ∧ scope[(ofLex place).2]? = some d

/-- The definition stands among the members of a package in the file scope of a unit. -/
def MemberAt (p : Project) (place : Nat ×ₗ Nat ×ₗ Nat) (d : DefId) : Prop :=
  ∃ id package, p.InScopeAt (toLex ((ofLex place).1, (ofLex (ofLex place).2).1)) id ∧
    p.definition? id = some package ∧ package.isPackage ∧
    package.members[(ofLex (ofLex place).2).2]? = some d

def isNamed (p : Project) (name : String) (d : DefId) : Bool :=
  p.defines d (·.qualifiedName = name)

def isPackageNamed (p : Project) (name : String) (d : DefId) : Bool :=
  p.defines d fun definition => definition.isPackage && definition.qualifiedName = name

/-- What a qualified name stands for: the first definition at package level that has it, by unit,
package and member; else the first package that has it, by unit and place in the file scope. -/
inductive Denotes (p : Project) (name : String) : Option DefId → Prop where
  | member {d : DefId} (h : FirstOf p.MemberAt (p.isNamed name) (some d)) : Denotes p name (some d)
  | package {d : DefId} (hmember : FirstOf p.MemberAt (p.isNamed name) none)
      (h : FirstOf p.InScopeAt (p.isPackageNamed name) (some d)) : Denotes p name (some d)
  | nothing (hmember : FirstOf p.MemberAt (p.isNamed name) none)
      (h : FirstOf p.InScopeAt (p.isPackageNamed name) none) : Denotes p name none

theorem InScopeAt.unique (place : Nat ×ₗ Nat) (d e : DefId) (h : p.InScopeAt place d)
    (h' : p.InScopeAt place e) : d = e := by
  obtain ⟨scope, hscope, hd⟩ := h
  obtain ⟨scope', hscope', he⟩ := h'
  cases hscope.symm.trans hscope'
  exact Option.some.inj (hd.symm.trans he)

theorem MemberAt.unique (place : Nat ×ₗ Nat ×ₗ Nat) (d e : DefId) (h : p.MemberAt place d)
    (h' : p.MemberAt place e) : d = e := by
  obtain ⟨id, package, hid, hpackage, -, hd⟩ := h
  obtain ⟨id', package', hid', hpackage', -, he⟩ := h'
  obtain rfl := InScopeAt.unique _ _ _ hid hid'
  cases hpackage.symm.trans hpackage'
  exact Option.some.inj (hd.symm.trans he)

/-- A name stands for one thing at most. -/
theorem Denotes.unique {found' : Option DefId} (h : p.Denotes name found)
    (h' : p.Denotes name found') : found = found' := by
  cases h with
  | member h =>
      cases h' with
      | member h' => exact h.unique h' MemberAt.unique
      | package hmember _ => cases h.unique hmember MemberAt.unique
      | nothing hmember _ => cases h.unique hmember MemberAt.unique
  | package hmember h =>
      cases h' with
      | member h' => cases hmember.unique h' MemberAt.unique
      | package _ h' => exact h.unique h' InScopeAt.unique
      | nothing _ h' => cases h.unique h' InScopeAt.unique
  | nothing hmember h =>
      cases h' with
      | member h' => cases hmember.unique h' MemberAt.unique
      | package _ h' => cases h.unique h' InScopeAt.unique
      | nothing _ _ => rfl

/-! ### Look-ups -/

/-- The members of a definition, if it is a package. -/
def packageMembers (p : Project) (id : DefId) : List DefId :=
  (((p.definition? id).filter (·.isPackage)).map (·.members)).getD []

theorem getElem?_packageMembers {id : DefId} {i : Nat} :
    (p.packageMembers id)[i]? = some d ↔
      ∃ package, p.definition? id = some package ∧ package.isPackage ∧
        package.members[i]? = some d := by
  unfold packageMembers
  cases p.definition? id with
  | none => simp
  | some package => cases hkind : package.isPackage <;> simp [Option.filter, hkind]

theorem topLevel_eq_flatMap : p.topLevel u = (p.scopeOrEmpty u).flatMap p.packageMembers := by
  unfold topLevel
  induction p.scopeOrEmpty u with
  | nil => rfl
  | cons id scope ih =>
      rw [List.flatMap_cons, ← ih, packageMembers]
      cases hid : p.definition? id with
      | none => simp [hid]
      | some package => cases hkind : package.isPackage <;> simp [hid, Option.filter, hkind]

/-- A place in a file scope is a place in the scope of one of the units. -/
theorem inScopeAt_iff {place : Nat ×ₗ Nat} :
    p.InScopeAt place d ↔ ∃ u, p.units[(ofLex place).1]? = some u ∧
      (p.scopeOrEmpty u)[(ofLex place).2]? = some d := by
  constructor
  · rintro ⟨scope, hscope, hd⟩
    have hunit : (ofLex place).1 < p.snapshot.units.length := by
      by_contra hbeyond
      have hnone : p.unit? ⟨(ofLex place).1⟩ = none :=
        List.getElem?_eq_none (Nat.le_of_not_lt hbeyond)
      rw [fileScope, hnone] at hscope
      cases hscope
      cases hd
    refine ⟨⟨(ofLex place).1⟩, by simp [units, hunit], ?_⟩
    rw [scopeOrEmpty, hscope]
    exact hd
  · rintro ⟨u, hunit, hd⟩
    obtain ⟨hlt, hindex⟩ := List.getElem?_eq_some_iff.mp hunit
    obtain rfl : ⟨(ofLex place).1⟩ = u := by simpa [units] using hindex
    cases hscope : p.fileScope ⟨(ofLex place).1⟩ with
    | error e => simp [scopeOrEmpty, hscope] at hd
    | ok scope =>
        rw [scopeOrEmpty, hscope] at hd
        exact ⟨scope, hscope, hd⟩

theorem firstOf_inScopeAt (property : DefId → Bool) :
    FirstOf p.InScopeAt property ((p.units.flatMap p.scopeOrEmpty).find? property) :=
  (firstOf_find?_flatMap fun u _ => firstOf_find? (p.scopeOrEmpty u)).congr fun _ _ =>
    inScopeAt_iff.symm

theorem firstOf_memberAt (property : DefId → Bool) :
    FirstOf p.MemberAt property ((p.units.flatMap p.topLevel).find? property) := by
  have hinner : ∀ u ∈ p.units, FirstOf (fun (place : Nat ×ₗ Nat) d =>
      ∃ id, (p.scopeOrEmpty u)[(ofLex place).1]? = some id ∧
        (p.packageMembers id)[(ofLex place).2]? = some d)
      property ((p.topLevel u).find? property) := by
    intro u _
    rw [topLevel_eq_flatMap]
    exact firstOf_find?_flatMap fun id _ => firstOf_find? (p.packageMembers id)
  refine (firstOf_find?_flatMap hinner).congr fun place d => ?_
  simp only [MemberAt, inScopeAt_iff, getElem?_packageMembers, ofLex_toLex]
  constructor
  · rintro ⟨u, hu, id, hid, package, hpackage, hkind, hd⟩
    exact ⟨id, package, ⟨u, hu, hid⟩, hpackage, hkind, hd⟩
  · rintro ⟨id, package, ⟨u, hu, hid⟩, hpackage, hkind, hd⟩
    exact ⟨u, hu, id, hid, package, hpackage, hkind, hd⟩

/-- The look-up by name finds what the name denotes. -/
theorem denotes_packageOrDefinition? (p : Project) (name : String) :
    p.Denotes name (p.packageOrDefinition? name) := by
  have hmember : FirstOf p.MemberAt (p.isNamed name) (p.byQualifiedName? name) :=
    firstOf_memberAt _
  have hpackage : FirstOf p.InScopeAt (p.isPackageNamed name) (p.packageByName? name) :=
    firstOf_inScopeAt _
  unfold packageOrDefinition?
  cases hfound : p.byQualifiedName? name with
  | some d => exact .member (hfound ▸ hmember)
  | none =>
      rw [hfound] at hmember
      cases hscope : p.packageByName? name with
      | some d => exact .package hmember (hscope ▸ hpackage)
      | none => exact .nothing hmember (hscope ▸ hpackage)

end Project

end SymbolNav
