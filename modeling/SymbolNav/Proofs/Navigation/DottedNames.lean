import SymbolNav.Proofs.Navigation.Circles
import SymbolNav.Proofs.Navigation.Lookups

/-!
# Chains of member accesses

In `a.b.c` the access to `c` has the access to `b` as its left operand. `Chain` is such a nest of
accesses with the identifiers that it joins, from left to right. An identifier of a chain that has
no binding is looked up by the dotted name that ends with it: from the second one on this is the
name of the access whose right operand it is, and the first one, a left operand, stands for itself.

The name of an access is put together by following its operands. Since a chain begins with an
identifier, they lead round in no circle, whatever other links the nodes have.
-/

namespace SymbolNav

namespace Project

/-- The node is an identifier with the access as its parent. -/
def IsNameBelow (p : Project) (access id : NodeId) (name : String) : Prop :=
  ∃ node, p.node? id = some node ∧ node.kind = .identifier name ∧ node.parent = some access

/-- The node is an access with the given operands. -/
def IsAccess (p : Project) (access left right : NodeId) : Prop :=
  ∃ node, p.node? access = some node ∧ node.kind = .memberAccess left right

/-- The access joins the identifiers with these names. -/
inductive Chain (p : Project) : NodeId → List (NodeId × String) → Prop where
  | pair {access first second : NodeId} {x y : String} (haccess : p.IsAccess access first second)
      (hfirst : p.IsNameBelow access first x) (hsecond : p.IsNameBelow access second y) :
      Chain p access [(first, x), (second, y)]
  | snoc {access inner id : NodeId} {name : String} {links : List (NodeId × String)}
      (haccess : p.IsAccess access inner id) (hinner : Chain p inner links)
      (hid : p.IsNameBelow access id name) : Chain p access (links ++ [(id, name)])

variable {p : Project} {access left right id : NodeId} {name : String}
variable {links : List (NodeId × String)} {i : Nat}

/-! ### The name of a chain -/

theorem IsNameBelow.dottedName_eq (h : p.IsNameBelow access id name) (depth : Nat) :
    p.dottedName depth id = .ok (some name) := by
  obtain ⟨node, hnode, hkind, -⟩ := h
  unfold dottedName
  simp only [hnode, hkind]

theorem IsNameBelow.freeOfCircles (h : p.IsNameBelow access id name) :
    FreeOfCircles p.IsOperand id := by
  obtain ⟨node, hnode, hkind, -⟩ := h
  have hname : node.identifier? = some name := by rw [SyntaxNode.identifier?, hkind]
  exact freeOfCircles_of_identifier? hnode hname

theorem IsAccess.freeOfCircles (h : p.IsAccess access left right)
    (hleft : FreeOfCircles p.IsOperand left) (hright : FreeOfCircles p.IsOperand right) :
    FreeOfCircles p.IsOperand access := by
  obtain ⟨node, hnode, hkind⟩ := h
  refine .of_next fun operand hoperand => ?_
  obtain ⟨node', left', right', hnode', hkind', hoperand⟩ := hoperand
  cases hnode.symm.trans hnode'
  cases hkind.symm.trans hkind'
  rcases hoperand with rfl | rfl
  · exact hleft
  · exact hright

theorem Chain.freeOfCircles (h : p.Chain access links) : FreeOfCircles p.IsOperand access := by
  induction h with
  | pair haccess hfirst hsecond =>
      exact haccess.freeOfCircles hfirst.freeOfCircles hsecond.freeOfCircles
  | snoc haccess _ hid ih => exact haccess.freeOfCircles ih hid.freeOfCircles

theorem Chain.two_le_length (h : p.Chain access links) : 2 ≤ links.length := by
  induction h with
  | pair => exact Nat.le_refl 2
  | snoc _ _ _ ih =>
      rw [List.length_append]
      omega

/-- The name of an access whose left operand has a name or goes on for ever. -/
theorem IsAccess.dottedName_eq {front : String} (h : p.IsAccess access left right)
    (hleft : ∀ depth, p.dottedName depth left = .ok (some front) ∨
      p.dottedName depth left = .error .endless)
    (hright : p.IsNameBelow access right name) (depth : Nat) :
    p.dottedName depth access = .ok (some (front ++ "." ++ name)) ∨
      p.dottedName depth access = .error .endless := by
  obtain ⟨node, hnode, hkind⟩ := h
  unfold dottedName
  simp only [hnode, hkind]
  cases depth with
  | zero => exact Or.inr rfl
  | succ depth =>
      rcases hleft depth with hleft | hleft
      · left
        simp only [hleft, hright.dottedName_eq depth]
        rfl
      · right
        simp only [hleft]
        rfl

/-- If the name of a chain is answered, then with the names of the identifiers. -/
theorem Chain.dottedName_eq_or (h : p.Chain access links) (depth : Nat) :
    p.dottedName depth access = .ok (some (".".intercalate (links.map (·.2)))) ∨
      p.dottedName depth access = .error .endless := by
  induction h generalizing depth with
  | pair haccess hfirst hsecond =>
      have hname := haccess.dottedName_eq (fun depth => Or.inl (hfirst.dottedName_eq depth))
        hsecond depth
      simpa [String.append_assoc] using hname
  | @snoc access inner id name links haccess hinner hid ih =>
      have hnames : links.map (·.2) ≠ [] := by
        have hlength := hinner.two_le_length
        rw [ne_eq, List.map_eq_nil_iff, ← List.length_eq_zero_iff]
        omega
      rw [List.map_append, List.map_singleton,
        String.intercalate_append_of_ne_nil hnames (List.cons_ne_nil name []),
        String.intercalate_singleton]
      exact haccess.dottedName_eq ih hid depth

/-- It is answered, since no more accesses are followed than there are nodes. -/
theorem Chain.dottedName_eq (h : p.Chain access links) :
    p.dottedName p.snapshot.nodes.length access =
      .ok (some (".".intercalate (links.map (·.2)))) := by
  rcases h.dottedName_eq_or p.snapshot.nodes.length with hname | hendless
  · exact hname
  · rcases dottedName_ends h.freeOfCircles with hcancelled | ⟨_, hok⟩
    · cases hendless.symm.trans hcancelled
    · cases hendless.symm.trans hok

/-! ### The names of its identifiers -/

theorem IsAccess.qualifier_of_right (h : p.IsAccess access left id)
    (hid : p.IsNameBelow access id name) :
    p.qualifier id = p.dottedName p.snapshot.nodes.length access := by
  obtain ⟨node, hnode, hkind⟩ := h
  obtain ⟨own, hown, hname, hparent⟩ := hid
  simp [qualifier, hown, SyntaxNode.identifier?, hname, hparent, hnode, SyntaxNode.memberAccess?,
    hkind]

theorem IsAccess.qualifier_of_left (h : p.IsAccess access id right)
    (hid : p.IsNameBelow access id name) (hright : right ≠ id) :
    p.qualifier id = .ok (some name) := by
  have hself := hid.dottedName_eq p.snapshot.nodes.length
  obtain ⟨node, hnode, hkind⟩ := h
  obtain ⟨own, hown, hname, hparent⟩ := hid
  simp [qualifier, hown, SyntaxNode.identifier?, hname, hparent, hnode, SyntaxNode.memberAccess?,
    hkind, hright, hself]

/-- Each identifier of a chain ends the name of the part of the chain up to it. The first one could
also be the second: a node that is both operands of the innermost access counts as the right one. -/
theorem Chain.qualifier_eq (h : p.Chain access links) (hlink : links[i]? = some (id, name))
    (hfirst : i = 0 → links[1]?.map (·.1) ≠ some id) :
    p.qualifier id = .ok (some (".".intercalate ((links.take (i + 1)).map (·.2)))) := by
  induction h generalizing i with
  | @pair access first second x y haccess hone htwo =>
      cases i with
      | zero =>
          cases hlink
          rw [haccess.qualifier_of_left hone fun heq => hfirst rfl (by simp [heq])]
          simp
      | succ i =>
          obtain rfl : i = 0 := by
            have hbound := (List.getElem?_eq_some_iff.mp hlink).1
            simp only [List.length_cons, List.length_nil] at hbound
            omega
          cases hlink
          rw [haccess.qualifier_of_right htwo]
          exact (Chain.pair haccess hone htwo).dottedName_eq
  | @snoc access inner last lastName links haccess hinner hlast ih =>
      have hlength := hinner.two_le_length
      by_cases hlt : i < links.length
      · rw [List.getElem?_append_left hlt] at hlink
        rw [List.getElem?_append_left (by omega)] at hfirst
        rw [ih hlink hfirst, List.take_append_of_le_length (by omega)]
      · have hi : i = links.length := by
          have hbound := (List.getElem?_eq_some_iff.mp hlink).1
          rw [List.length_append, List.length_singleton] at hbound
          omega
        subst hi
        obtain ⟨rfl, rfl⟩ : last = id ∧ lastName = name := by simpa using hlink
        rw [haccess.qualifier_of_right hlast, (Chain.snoc haccess hinner hlast).dottedName_eq,
          List.take_of_length_le (by simp)]

end Project

namespace Resolver

variable {p : Project} {access id : NodeId} {name : String} {links : List (NodeId × String)}
variable {i : Nat}

theorem bindingsOnly_identifier : bindingsOnly.identifier p id = .ok (p.binding? id) := by
  unfold identifier
  cases p.binding? id <;> rfl

theorem standard_identifier_of_unbound (h : p.binding? id = none) :
    standard.identifier p id = p.qualified id := by
  unfold identifier
  simp only [h, standard, List.findSomeM?]
  cases p.qualified id with
  | error e => rfl
  | ok found => cases found <;> rfl

/-- An identifier of a chain of member accesses stands for what it is bound to, and without a
binding for what the dotted name up to it denotes. The one exception is a node that is both the
first and the second identifier, which counts as the second. -/
theorem standard_resolves_dotted_names (h : p.Chain access links)
    (hlink : links[i]? = some (id, name)) :
    bindingsOnly.identifier p id = .ok (p.binding? id) ∧
      (∀ d, p.binding? id = some d → standard.identifier p id = .ok (some d)) ∧
      (p.binding? id = none → (i = 0 → links[1]?.map (·.1) ≠ some id) →
        ∃ found, standard.identifier p id = .ok found ∧
          p.Denotes (".".intercalate ((links.take (i + 1)).map (·.2))) found) := by
  refine ⟨bindingsOnly_identifier, ?_, ?_⟩
  · intro d hd
    rw [identifier, hd]
  · intro hunbound hfirst
    refine ⟨_, ?_, p.denotes_packageOrDefinition? _⟩
    rw [standard_identifier_of_unbound hunbound, Project.qualified, h.qualifier_eq hlink hfirst]
    rfl

namespace ChainSample

/-- The text `flash.events.Event` in a project where `flash.events` is a package of the second unit
and a definition of the third one. The scope of the first unit is not known, and the second one
lists a definition that is not there. -/
def snapshot : Snapshot where
  units := [
    ⟨⟨"/p/Main.as"⟩, .script, some "flash.events.Event", some ⟨0⟩, .failed "", none, [], none⟩,
    ⟨⟨"/p/Event.as"⟩, .script, none, none, .ready [⟨9⟩, ⟨0⟩], none, [], none⟩,
    ⟨⟨"/p/events.as"⟩, .script, none, none, .ready [⟨1⟩], none, [], none⟩]
  nodes := [
    ⟨.memberAccess ⟨1⟩ ⟨4⟩, ⟨0, 18⟩, none, [⟨1⟩, ⟨4⟩]⟩,
    ⟨.memberAccess ⟨2⟩ ⟨3⟩, ⟨0, 12⟩, some ⟨0⟩, [⟨2⟩, ⟨3⟩]⟩,
    ⟨.identifier "flash", ⟨0, 5⟩, some ⟨1⟩, []⟩,
    ⟨.identifier "events", ⟨6, 12⟩, some ⟨1⟩, []⟩,
    ⟨.identifier "Event", ⟨13, 18⟩, some ⟨0⟩, []⟩]
  definitions := [
    ⟨"flash.events", "flash.events", .package [⟨3⟩], .pub, ⟨"/p/Event.as"⟩, none, none⟩,
    ⟨"flash", "flash", .package [⟨8⟩, ⟨2⟩], .pub, ⟨"/p/events.as"⟩, none, none⟩,
    ⟨"events", "flash.events", .var .packageMember, .pub, ⟨"/p/events.as"⟩, some ⟨1⟩, none⟩,
    ⟨"Event", "flash.events.Event", .classType none [], .pub, ⟨"/p/Event.as"⟩, some ⟨0⟩, none⟩]

def project : Project := .ofSnapshot {} snapshot

def joined : List (NodeId × String) := [(⟨2⟩, "flash"), (⟨3⟩, "events"), (⟨4⟩, "Event")]

theorem chain : project.Chain ⟨0⟩ joined := by
  have hinner : project.Chain ⟨1⟩ [(⟨2⟩, "flash"), (⟨3⟩, "events")] :=
    .pair ⟨_, rfl, rfl⟩ ⟨_, rfl, rfl, rfl⟩ ⟨_, rfl, rfl, rfl⟩
  exact hinner.snoc ⟨_, rfl, rfl⟩ ⟨_, rfl, rfl, rfl⟩

/-- The text `a.a` with one node for both identifiers. -/
def doubled : Snapshot where
  units := [⟨⟨"/p/a.as"⟩, .script, some "a.a", some ⟨0⟩, .ready [⟨0⟩], none, [], none⟩]
  nodes := [⟨.memberAccess ⟨1⟩ ⟨1⟩, ⟨0, 3⟩, none, [⟨1⟩]⟩, ⟨.identifier "a", ⟨0, 1⟩, some ⟨0⟩, []⟩]
  definitions := [
    ⟨"a", "a", .package [⟨1⟩], .pub, ⟨"/p/a.as"⟩, none, none⟩,
    ⟨"a", "a.a", .classType none [], .pub, ⟨"/p/a.as"⟩, some ⟨0⟩, none⟩]

end ChainSample

theorem standard_resolves_dotted_names_of_sample :
    ChainSample.project.Chain ⟨0⟩ ChainSample.joined ∧
      ChainSample.joined[1]? = some (⟨3⟩, "events") ∧ ChainSample.project.binding? ⟨3⟩ = none ∧
      standard.identifier ChainSample.project ⟨3⟩ = .ok (some ⟨2⟩) ∧
      ChainSample.project.Denotes "flash.events" (some ⟨2⟩) := by
  have hlink : ChainSample.joined[1]? = some (⟨3⟩, "events") := rfl
  have hunbound : ChainSample.project.binding? ⟨3⟩ = none := rfl
  have hvalue : standard.identifier ChainSample.project ⟨3⟩ = .ok (some ⟨2⟩) := by decide
  obtain ⟨found, hfound, hdenotes⟩ :=
    (standard_resolves_dotted_names ChainSample.chain hlink).2.2 hunbound (by decide)
  cases hvalue.symm.trans hfound
  exact ⟨ChainSample.chain, hlink, hunbound, hvalue, hdenotes⟩

/-- One node as both identifiers of `a.a` stands for `a.a` and not for what `a` denotes. -/
theorem standard_resolves_doubled_operand :
    ∃ p : Project, p.Chain ⟨0⟩ [(⟨1⟩, "a"), (⟨1⟩, "a")] ∧ p.binding? ⟨1⟩ = none ∧
      p.Denotes "a" (some ⟨0⟩) ∧ standard.identifier p ⟨1⟩ = .ok (some ⟨1⟩) ∧
      ¬ p.Denotes "a" (some ⟨1⟩) := by
  have hdenotes : (Project.ofSnapshot {} ChainSample.doubled).Denotes "a" (some ⟨0⟩) := by
    have hvalue : (Project.ofSnapshot {} ChainSample.doubled).packageOrDefinition? "a" =
        some ⟨0⟩ := by decide
    exact hvalue ▸ Project.denotes_packageOrDefinition? _ "a"
  refine ⟨.ofSnapshot {} ChainSample.doubled, ?_, rfl, hdenotes, by decide, ?_⟩
  · exact .pair ⟨_, rfl, rfl⟩ ⟨_, rfl, rfl, rfl⟩ ⟨_, rfl, rfl, rfl⟩
  · intro hother
    cases hdenotes.unique hother

end Resolver

end SymbolNav
