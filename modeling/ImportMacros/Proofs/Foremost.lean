import ImportMacros.Proofs.Reach

/-!
# ImportMacros.Proofs.Foremost

Which statement is found. The places of a program are visited in the order of their addresses: a
tree before what is in it, and the fields of a node one after the other. Everything is visited but
what an import declaration holds (`Tree.IsVisited`). Among the statements of interest that stand at
such places, with a key that is not handled, the search comes to the one with the least address, and
to none just if there is none (`firstStatement?_foremost`).

The search by itself stops at the first child in which it finds something. It has then seen the
children before, and its own tree, in vain (`Tree.exists_earliest`).
-/

namespace ImportMacros
namespace Tree

/-- A statement stands at an address of a tree, be it visited or not. -/
def Has (t : Tree) (a : Address) (s : Statement) : Prop :=
  ∃ u, t.at? a = some u ∧ u.statement? = some s

/-- No tree on the way to an address is an import declaration. -/
def IsVisited (t : Tree) (a : Address) : Prop :=
  ∀ above, above <+: a → above ≠ a → ∀ u, t.at? above = some u →
    u.isKind .importDeclaration = false

variable {t child : Tree} {a : Address} {s : Statement} {i : Nat}

theorem isVisited_nil (t : Tree) : t.IsVisited [] := by
  intro above habove hne
  exact absurd (List.prefix_nil.1 habove) hne

theorem isVisited_cons (hchild : t.children[i]? = some child) :
    t.IsVisited (i :: a) ↔ t.isKind .importDeclaration = false ∧ child.IsVisited a := by
  constructor
  · intro h
    refine ⟨h [] List.nil_prefix (by simp) t rfl, fun above habove hne u hu => ?_⟩
    refine h (i :: above) (List.cons_prefix_cons.2 ⟨rfl, habove⟩) (by simpa using hne) u ?_
    rw [at?_cons hchild, hu]
  · rintro ⟨ht, h⟩ above habove hne u hu
    rcases List.prefix_cons_iff.1 habove with rfl | ⟨below, rfl, hbelow⟩
    · cases hu
      exact ht
    · rw [at?_cons hchild] at hu
      exact h below hbelow (by simpa using hne) u hu

theorem standsAt_iff : StandsAt s t a ↔ t.Has a s ∧ t.IsVisited a := by
  induction a generalizing t with
  | nil =>
    constructor
    · intro h
      cases h with
      | here hs => exact ⟨⟨t, rfl, hs⟩, isVisited_nil t⟩
    · rintro ⟨⟨u, hu, hs⟩, -⟩
      cases hu
      exact .here hs
  | cons i rest ih =>
    constructor
    · intro h
      cases h with
      | inside himport hchild hbelow =>
        obtain ⟨⟨u, hu, hs⟩, hvisited⟩ := ih.1 hbelow
        exact ⟨⟨u, (at?_cons hchild rest).trans hu, hs⟩,
          (isVisited_cons hchild).2 ⟨himport, hvisited⟩⟩
    · rintro ⟨⟨u, hu, hs⟩, hvisited⟩
      obtain ⟨child, hchild, hbelow⟩ := at?_cons_eq_some.1 hu
      obtain ⟨himport, hvisited'⟩ := (isVisited_cons hchild).1 hvisited
      exact .inside himport hchild (ih.2 ⟨⟨u, hbelow, hs⟩, hvisited'⟩)

theorem eq_of_has {s' : Statement} (h : t.Has a s) (h' : t.Has a s') : s = s' := by
  obtain ⟨u, hu, hs⟩ := h
  obtain ⟨u', hu', hs'⟩ := h'
  rw [hu] at hu'
  cases hu'
  exact Option.some.inj (hs.symm.trans hs')

/-! ## The search -/

section Search

variable {wanted : String → Bool} {test : Statement → Bool}

/-- A statement at an address passes a test, and none does that the search comes to before. -/
structure Earliest (wanted : String → Bool) (test : Statement → Bool) (t : Tree) (a : Address)
    (s : Statement) : Prop where
  stands : StandsAt s t a
  isWanted : wanted s.source = true
  passes : test s = true
  first : ∀ b, b < a → ∀ u, StandsAt u t b → wanted u.source = true → test u = false

theorem test_of_find?_eq_none (h : (statements wanted t).find? test = none) {u : Statement}
    (hstands : StandsAt u t a) (hwanted : wanted u.source = true) : test u = false := by
  have hmem := (mem_statements_iff t).2 ⟨hwanted, a, hstands⟩
  simpa using List.find?_eq_none.1 h u hmem

theorem Earliest.own (hs : t.statement? = some s) (hwanted : wanted s.source = true)
    (htest : test s = true) : Earliest wanted test t [] s where
  stands := .here hs
  isWanted := hwanted
  passes := htest
  first b hb := absurd hb (List.not_lt_nil b)

/-- What comes first in a child comes first in the tree, if nothing does in the children before. -/
theorem Earliest.below {front back : List Tree} (himport : t.isKind .importDeclaration = false)
    (hchildren : t.children = front ++ child :: back)
    (hown : ∀ u, t.statement? = some u → wanted u.source = true → test u = false)
    (hfront : ∀ before ∈ front, (statements wanted before).find? test = none)
    (h : Earliest wanted test child a s) : Earliest wanted test t (front.length :: a) s := by
  have hchild : t.children[front.length]? = some child := by simp [hchildren]
  refine ⟨.inside himport hchild h.stands, h.isWanted, h.passes, fun b hb u hu hwanted => ?_⟩
  cases hu with
  | here hstatement => exact hown u hstatement hwanted
  | @inside t child' j rest himport hchild' hbelow =>
    rcases List.cons_lt_cons_iff.1 hb with hj | ⟨rfl, hrest⟩
    · rw [hchildren, List.getElem?_append_left hj] at hchild'
      exact test_of_find?_eq_none (hfront child' (List.mem_of_getElem? hchild')) hbelow hwanted
    · obtain rfl : child = child' := Option.some.inj (hchild.symm.trans hchild')
      exact h.first rest hrest u hbelow hwanted

theorem exists_earliest (h : (statements wanted t).find? test = some s) :
    ∃ a, Earliest wanted test t a s := by
  induction t using children_induct with
  | step t ih =>
    rw [statements_eq_children, List.find?_append, Option.or_eq_some_iff] at h
    rcases h with hown | ⟨hnone, hbelow⟩
    · obtain ⟨hs, hwanted⟩ := mem_ownStatement?.1 (List.mem_of_find?_eq_some hown)
      exact ⟨[], .own hs hwanted (List.find?_some hown)⟩
    · split at hbelow
      · cases hbelow
      · rename_i himport
        rw [List.find?_flatMap, List.findSome?_eq_some_iff] at hbelow
        obtain ⟨front, child, back, hchildren, hfound, hfront⟩ := hbelow
        obtain ⟨a, ha⟩ := ih child (by simp [hchildren]) hfound
        refine ⟨front.length :: a, ha.below (by simpa using himport) hchildren ?_ hfront⟩
        intro u hu hwanted
        simpa using List.find?_eq_none.1 hnone u (mem_ownStatement?.2 ⟨hu, hwanted⟩)

end Search
end Tree

namespace Program

variable {wanted : String → Bool} {handled : List Key} {p : Program} {a : Address} {s : Statement}

/-- At an address that is visited stands a statement with a wanted source and a key that is not
handled. -/
structure Offers (wanted : String → Bool) (handled : List Key) (p : Program) (a : Address)
    (s : Statement) : Prop where
  has : p.tree.Has a s
  isVisited : p.tree.IsVisited a
  isWanted : wanted s.source = true
  unhandled : s.key ∉ handled

/-- A statement is offered at an address, and none is at an earlier one. -/
structure Foremost (wanted : String → Bool) (handled : List Key) (p : Program) (a : Address)
    (s : Statement) : Prop where
  offers : p.Offers wanted handled a s
  first : ∀ b, b < a → ∀ other, ¬p.Offers wanted handled b other

def ImportsHoldNone (p : Program) : Prop :=
  ∀ a u, p.tree.at? a = some u → u.isKind .importDeclaration = true →
    ∀ b s, b ≠ [] → ¬u.Has b s

theorem foremost_of_firstStatement? (h : p.firstStatement? wanted handled = some s) :
    ∃ a, p.Foremost wanted handled a s := by
  rw [firstStatement?_eq_find?] at h
  obtain ⟨a, ha⟩ := Tree.exists_earliest (t := p.tree) h
  obtain ⟨hhas, hvisited⟩ := Tree.standsAt_iff.1 ha.stands
  refine ⟨a, ⟨hhas, hvisited, ha.isWanted, by simpa using ha.passes⟩, fun b hb other hother => ?_⟩
  have hfails := ha.first b hb other (Tree.standsAt_iff.2 ⟨hother.has, hother.isVisited⟩)
    hother.isWanted
  exact hother.unhandled (by simpa using hfails)

theorem firstStatement?_eq_none_iff :
    p.firstStatement? wanted handled = none ↔ ∀ a s, ¬p.Offers wanted handled a s := by
  rw [firstStatement?_eq_none]
  constructor
  · intro h a s hs
    have hstands := Tree.standsAt_iff.2 ⟨hs.has, hs.isVisited⟩
    exact hs.unhandled (h s ((Tree.mem_statements_iff p.tree).2 ⟨hs.isWanted, a, hstands⟩))
  · intro h s hs
    obtain ⟨hwanted, a, hstands⟩ := (Tree.mem_statements_iff p.tree).1 hs
    obtain ⟨hhas, hvisited⟩ := Tree.standsAt_iff.1 hstands
    by_contra hunhandled
    exact h a s ⟨hhas, hvisited, hwanted, hunhandled⟩

theorem Foremost.unique {a' : Address} {s' : Statement} (h : p.Foremost wanted handled a s)
    (h' : p.Foremost wanted handled a' s') : s = s' := by
  have heq : a = a' := List.le_antisymm (fun hlt => h.first a' hlt s' h'.offers)
    (fun hlt => h'.first a hlt s h.offers)
  subst heq
  exact Tree.eq_of_has h.offers.has h'.offers.has

/-- All statements are visited, unless one is put inside of an import declaration, which has only
specifiers and a source. -/
theorem isVisited_of_importsHoldNone (hp : p.ImportsHoldNone) (h : p.tree.Has a s) :
    p.tree.IsVisited a := by
  rintro above ⟨below, rfl⟩ hne u hu
  rw [Bool.eq_false_iff]
  intro himport
  obtain ⟨v, hv, hs⟩ := h
  rw [Tree.at?_append hu] at hv
  refine hp above u hu himport below s ?_ ⟨v, hv, hs⟩
  rintro rfl
  exact hne (List.append_nil above).symm

/-- The search finds the statement that is offered first, and none just if none is offered. It
visits all statements but those inside of import declarations, which have only specifiers and a
source to hold. -/
theorem firstStatement?_foremost (wanted : String → Bool) (handled : List Key) (p : Program) :
    (∀ s, p.firstStatement? wanted handled = some s ↔ ∃ a, p.Foremost wanted handled a s) ∧
    (p.firstStatement? wanted handled = none ↔ ∀ a s, ¬p.Offers wanted handled a s) ∧
    (p.ImportsHoldNone → ∀ a s, p.tree.Has a s → p.tree.IsVisited a) := by
  refine ⟨fun s => ⟨foremost_of_firstStatement?, ?_⟩, firstStatement?_eq_none_iff,
    fun hp a s => isVisited_of_importsHoldNone hp⟩
  rintro ⟨a, ha⟩
  cases hfound : p.firstStatement? wanted handled with
  | none => exact absurd ha.offers (firstStatement?_eq_none_iff.1 hfound a s)
  | some s' =>
    obtain ⟨a', ha'⟩ := foremost_of_firstStatement? hfound
    rw [ha.unique ha']

/-- A declarator comes before the one in its target, and that one is found when it is handled. -/
example :
    let inner : Key := ⟨⟨4, 9⟩, "b"⟩
    let outer : Key := ⟨⟨1, 20⟩, "a"⟩
    let p : Program := ⟨false, Span.none, .null, [.constOf [
      .requireOf outer (.binder ⟨"x", 2, ⟨1, 2⟩, false⟩ (.requireOf inner .absent))]]⟩
    [[], [outer], [inner], [outer, inner]].map
        (fun handled => (p.firstStatement? (fun _ => true) handled).map Statement.key) =
      [some outer, some inner, some outer, none] := by
  decide

end Program
end ImportMacros
