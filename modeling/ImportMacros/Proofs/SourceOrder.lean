import ImportMacros.Proofs.Collection

/-!
# ImportMacros.Proofs.SourceOrder

The order of the places that are recorded for a name. A tree is visited field by field, and of a
do-while loop and of a class the fields do not come as in the text (`Kind.textRank`). So where the
identifiers of a program have the positions of its text (`Program.IsInText`), the places of a name
are in the order of the text just if the name is not used in two fields that are visited the other
way round (`collect_inTextOrder_iff`).

Programs of ECMAScript with JSX are meant, which have no decorators. Those of a method are visited
after its key and its parameters and stand before both, so no order of one node's fields would do.
-/

namespace ImportMacros

/-- Where the subtrees of a node stand in the text. The test of a do-while loop comes after its
body, the superclass of a class before its members. -/
def Kind.textRank : Kind → Nat → Nat
  | .doWhileStatement, 0 => 1
  | .doWhileStatement, 1 => 0
  | .classDeclaration, 1 => 2
  | .classDeclaration, 2 => 1
  | .classExpression, 1 => 2
  | .classExpression, 2 => 1
  | _, i => i

theorem Kind.textRank_injective (kind : Kind) : Function.Injective kind.textRank := by
  intro i j h
  unfold textRank at h
  split at h <;> split at h <;> simp_all

namespace Tree

def textRank : Tree → Nat → Nat
  | .node kind _ _ _, i => kind.textRank i
  | _, i => i

theorem textRank_injective (t : Tree) : Function.Injective t.textRank := by
  cases t with
  | node kind span data parts => exact kind.textRank_injective
  | _ => exact Function.injective_id

def precedes : Tree → Address → Address → Bool
  | t, i :: a, j :: b =>
    if i = j then
      match t.children[i]? with
      | some child => precedes child a b
      | none => false
    else t.textRank i < t.textRank j
  | _, _, _ => false

variable {t : Tree} {a b c : Address} {i j : Nat}

/-- The visiting order of two identifiers is decided where their addresses part. -/
theorem exists_fork {id id' : Ident} (h : t.at? a = some (.use id)) (h' : t.at? b = some (.use id'))
    (hlt : a < b) :
    ∃ c v i j a' b', t.at? c = some v ∧ i < j ∧ a = c ++ i :: a' ∧ b = c ++ j :: b' := by
  induction a generalizing t b with
  | nil =>
    cases h
    cases b with
    | nil => exact absurd hlt (List.not_lt_nil _)
    | cons j b => cases h'
  | cons i a ih =>
    cases b with
    | nil => exact absurd hlt (List.not_lt_nil _)
    | cons j b =>
      rcases List.cons_lt_cons_iff.1 hlt with hij | ⟨rfl, hbelow⟩
      · exact ⟨[], t, i, j, a, b, rfl, hij, rfl, rfl⟩
      · obtain ⟨child, hchild, hat⟩ := at?_cons_eq_some.1 h
        rw [at?_cons hchild] at h'
        obtain ⟨c, v, k, l, a', b', hc, hkl, rfl, rfl⟩ := ih hat h' hbelow
        exact ⟨i :: c, v, k, l, a', b', by rw [at?_cons hchild, hc], hkl, rfl, rfl⟩

theorem precedes_fork {v : Tree} (h : t.at? c = some v) (hij : i ≠ j) :
    t.precedes (c ++ i :: a) (c ++ j :: b) = decide (v.textRank i < v.textRank j) := by
  induction c generalizing t with
  | nil =>
    cases h
    rw [List.nil_append, List.nil_append, precedes, if_neg hij]
  | cons k c ih =>
    obtain ⟨child, hchild, hat⟩ := at?_cons_eq_some.1 h
    rw [List.cons_append, List.cons_append, precedes, if_pos rfl, hchild]
    exact ih hat

theorem lt_fork (c : Address) (hij : i < j) : c ++ i :: a < c ++ j :: b := by
  induction c with
  | nil => exact List.cons_lt_cons_iff.2 (.inl hij)
  | cons k c ih => exact List.cons_lt_cons_iff.2 (.inr ⟨rfl, ih⟩)

end Tree

/-- The positions of the identifiers of a program, which has no decorators, agree with the order of
its text. -/
def Program.IsInText (p : Program) : Prop :=
  ∀ o ∈ p.tree.occurrences, ∀ o' ∈ p.tree.occurrences,
    p.tree.precedes o.1 o'.1 = true → o.2.span.start < o'.2.span.start

instance (p : Program) : Decidable p.IsInText :=
  inferInstanceAs (Decidable (∀ o ∈ p.tree.occurrences, ∀ o' ∈ p.tree.occurrences,
    p.tree.precedes o.1 o'.1 = true → o.2.span.start < o'.2.span.start))

namespace References

def IsInTextOrder (refs : References) : Prop :=
  ∀ name sites, (name, sites) ∈ refs → sites.Pairwise fun s s' => s.span.start < s'.span.start

def usesOf (p : Program) (scope : Nat) (bindings : List Binding) (name : String) :
    List (Address × Ident) :=
  (found p scope bindings).filter fun o =>
    (standing? p scope bindings o.2.toVariable).map Binding.importedName == some name

/-- A name is used in two fields of a node that are visited in the reverse of their order in the
text. -/
def Crosses (p : Program) (scope : Nat) (bindings : List Binding) (name : String) : Prop :=
  ∃ c t i j a b id id', p.tree.at? c = some t ∧ i < j ∧ t.textRank j < t.textRank i ∧
    (c ++ i :: a, id) ∈ usesOf p scope bindings name ∧
    (c ++ j :: b, id') ∈ usesOf p scope bindings name

variable {p : Program} {scope : Nat} {bindings : List Binding} {name : String}

theorem mem_occurrences_of_usesOf {o : Address × Ident} (h : o ∈ usesOf p scope bindings name) :
    o ∈ p.tree.occurrences :=
  (List.mem_filter.1 (List.mem_filter.1 h).1).1

theorem at?_of_mem_usesOf {o : Address × Ident} (h : o ∈ usesOf p scope bindings name) :
    p.tree.at? o.1 = some (.use o.2) :=
  ((Tree.mem_occurrences p.tree o.1 o.2).1 (mem_occurrences_of_usesOf h)).1

theorem pairwise_usesOf (p : Program) (scope : Nat) (bindings : List Binding) (name : String) :
    (usesOf p scope bindings name).Pairwise fun o o' => o.1 < o'.1 :=
  (exact_collect p scope bindings).inOrder.filter _

theorem exists_sites_of_usesOf {o : Address × Ident} (h : o ∈ usesOf p scope bindings name) :
    (name, (usesOf p scope bindings name).map fun o => o.2.site) ∈ collect p scope bindings := by
  obtain ⟨hfound, hname⟩ := List.mem_filter.1 h
  obtain ⟨binding, hstanding, hmem⟩ := (exact_collect p scope bindings).standing o.1 o.2 hfound
  rw [hstanding, Option.map_some, beq_iff_eq, Option.some.injEq] at hname
  rw [hname] at hmem
  obtain ⟨⟨n, sites⟩, hsites, rfl⟩ := List.mem_map.1 hmem
  have heq := (exact_collect p scope bindings).sites n sites hsites
  rw [heq] at hsites
  exact hsites

/-- In a list that is in order twice, the one order follows the other. -/
theorem rel_of_pairwise {α : Type} {r s : α → α → Prop} {xs : List α} (hr : xs.Pairwise r)
    (hs : xs.Pairwise s) (hirrefl : ∀ x, ¬r x x) (hasymm : ∀ x y, r x y → ¬r y x) {x y : α}
    (hx : x ∈ xs) (hy : y ∈ xs) (hxy : r x y) : s x y := by
  have hforth : xs.Pairwise fun x y => r x y → s x y := by
    refine hs.imp ?_
    intro x y h _
    exact h
  have hback : xs.Pairwise fun x y => r y x → s y x :=
    hr.imp fun h h' => absurd h' (hasymm _ _ h)
  have hself : ∀ x ∈ xs, r x x → s x x := fun x _ h => absurd h (hirrefl x)
  exact hforth.forall_of_forall_of_flip hself hback hx hy hxy

/-- The places of each name are in the order of the text just if no name crosses. -/
theorem collect_inTextOrder_iff (hp : p.IsInText) (scope : Nat) (bindings : List Binding) :
    (collect p scope bindings).IsInTextOrder ↔ ∀ name, ¬Crosses p scope bindings name := by
  constructor
  · rintro h name ⟨c, t, i, j, a, b, id, id', hat, hij, hrank, hmem, hmem'⟩
    have hstarts := h name _ (exists_sites_of_usesOf hmem)
    rw [List.pairwise_map] at hstarts
    have hlt := rel_of_pairwise (pairwise_usesOf p scope bindings name) hstarts
      (fun o => List.lt_irrefl o.1) (fun _ _ => List.lt_asymm) hmem hmem' (Tree.lt_fork c hij)
    have hprecedes : p.tree.precedes (c ++ j :: b) (c ++ i :: a) = true := by
      rw [Tree.precedes_fork hat (Nat.ne_of_gt hij)]
      exact decide_eq_true hrank
    have hgt := hp _ (mem_occurrences_of_usesOf hmem') _ (mem_occurrences_of_usesOf hmem) hprecedes
    exact Nat.lt_asymm hlt hgt
  · intro h name sites hsites
    rw [(exact_collect p scope bindings).sites name sites hsites, List.pairwise_map]
    refine (pairwise_usesOf p scope bindings name).imp_of_mem ?_
    intro o o' hmem hmem' hlt
    obtain ⟨c, t, i, j, a, b, hat, hij, ha, hb⟩ :=
      Tree.exists_fork (at?_of_mem_usesOf hmem) (at?_of_mem_usesOf hmem') hlt
    have hrank : t.textRank i < t.textRank j := by
      by_contra hnot
      have hne : t.textRank i ≠ t.textRank j :=
        fun heq => Nat.ne_of_lt hij (t.textRank_injective heq)
      have hgt : t.textRank j < t.textRank i := by omega
      exact h name ⟨c, t, i, j, a, b, o.2, o'.2, hat, hij, hgt, ha ▸ hmem, hb ▸ hmem'⟩
    refine hp o (mem_occurrences_of_usesOf hmem) o' (mem_occurrences_of_usesOf hmem') ?_
    rw [ha, hb, Tree.precedes_fork hat (Nat.ne_of_lt hij)]
    exact decide_eq_true hrank

/-- `var f = require("x.macro");` and a statement. -/
def requiringProgram (rest : Tree) : Program := ⟨false, Span.none, .null, [
  .constOf [.requireOf ⟨⟨5, 27⟩, "x.macro"⟩ (.binder ⟨"f", 2, ⟨5, 6⟩, false⟩ .absent)], rest]⟩

/-- As in `(class extends f { [f]; });`. -/
def extending : Program :=
  let own : Tree := .node .classExpression ⟨30, 54⟩ [] [
    .absent,
    .seq [.node .classProperty ⟨48, 52⟩ [] [
      .node .computed ⟨48, 51⟩ [] [.use ⟨"f", 2, ⟨49, 50⟩, false⟩], .absent]],
    .use ⟨"f", 2, ⟨44, 45⟩, false⟩]
  requiringProgram (.node .expressionStatement ⟨29, 56⟩ [] [.node .parenthesis ⟨29, 55⟩ [] [own]])

theorem not_inTextOrder_extending : extending.IsInText ∧
    ¬(collect extending 2 [.default "f"]).IsInTextOrder := by
  have htext : extending.IsInText := by decide
  refine ⟨htext, fun horder => ?_⟩
  have hnone := (collect_inTextOrder_iff htext 2 [.default "f"]).1 horder "default"
  exact hnone ⟨[1, 0, 0], _, 1, 2, [0, 0, 0], [], ⟨"f", 2, ⟨49, 50⟩, false⟩,
    ⟨"f", 2, ⟨44, 45⟩, false⟩, rfl, by decide, by decide, by decide, by decide⟩

/-- As in `do f; while (f);`. -/
def repeating : Program :=
  requiringProgram (.node .doWhileStatement ⟨29, 45⟩ [] [
    .use ⟨"f", 2, ⟨42, 43⟩, false⟩, .useOf ⟨"f", 2, ⟨32, 33⟩, false⟩])

theorem not_collect_inTextOrder :
    collect repeating 2 [.default "f"] =
        [("default", [⟨"f", 2, ⟨42, 43⟩⟩, ⟨"f", 2, ⟨32, 33⟩⟩])] ∧
      ¬∀ (p : Program) (scope : Nat) (bindings : List Binding), p.IsInText →
        (collect p scope bindings).IsInTextOrder := by
  have hcollect : collect repeating 2 [.default "f"] =
      [("default", [⟨"f", 2, ⟨42, 43⟩⟩, ⟨"f", 2, ⟨32, 33⟩⟩])] := by decide
  refine ⟨hcollect, fun h => ?_⟩
  have hstarts := h repeating 2 [.default "f"] (by decide) "default" _
    (hcollect ▸ List.mem_singleton_self _)
  exact absurd hstarts (by decide)

end References
end ImportMacros
