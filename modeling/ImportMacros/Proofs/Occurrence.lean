import ImportMacros.Proofs.Tree

/-!
# ImportMacros.Proofs.Occurrence

Identifiers and where they stand. An address gives the positions of the subtrees on the way down,
so the order of the addresses (`<` on lists) is the order in which a tree is visited, field by
field. `Tree.at?` looks up an address, in any part of a tree: also in a binder, an import
declaration or a closing tag.

`Tree.occurrences` are the uses of a tree with their addresses (`map_snd_occurrences`). They are
just the identifiers with nothing around them that hides uses (`mem_occurrences`), each once and
in visiting order (`pairwise_occurrences`).
-/

namespace ImportMacros

/-- The positions of the subtrees on the way down to a place in a tree. -/
abbrev Address := List Nat

namespace Tree

/-- The subtrees of a tree, in visiting order; those of a binder are its identifier and its
ascription. -/
def children : Tree → List Tree
  | .absent => []
  | .use _ => []
  | .binder id ascription => [.use id, ascription]
  | .seq items => items
  | .node _ _ _ parts => parts

theorem children_induct {motive : Tree → Prop}
    (step : ∀ t, (∀ child ∈ t.children, motive child) → motive t) (t : Tree) : motive t := by
  have hnone : ∀ child ∈ ([] : List Tree), motive child := by simp
  induction t with
  | absent => exact step .absent hnone
  | use id => exact step (.use id) hnone
  | binder id ascription ih =>
    refine step (.binder id ascription) fun child hchild => ?_
    rcases List.mem_cons.1 hchild with rfl | hchild
    · exact step (.use id) hnone
    · rw [List.mem_singleton.1 hchild]
      exact ih
  | seq items ih => exact step (.seq items) ih
  | node kind span data parts ih => exact step (.node kind span data parts) ih

def at? : Tree → Address → Option Tree
  | t, [] => some t
  | t, i :: rest =>
    match t.children[i]? with
    | some child => at? child rest
    | none => none

/-- Binding identifiers, import declarations and closing tags. -/
def isCover : Tree → Bool
  | .binder _ _ => true
  | .node .importDeclaration _ _ _ => true
  | .node .jsxClosingElement _ _ _ => true
  | _ => false

/-- No place on the way to an address is a binding identifier, an import declaration or a closing
tag. -/
def IsOpen (t : Tree) (a : Address) : Prop :=
  ∀ front, front <+: a → ∀ cover, t.at? front = some cover → cover.isCover = false

mutual

def occurrences : Tree → List (Address × Ident)
  | .absent => []
  | .use id => [([], id)]
  | .binder _ _ => []
  | .seq items => occurrencesFrom 0 items
  | .node kind _ _ parts => if Kind.hidesUses kind then [] else occurrencesFrom 0 parts

def occurrencesFrom (i : Nat) : List Tree → List (Address × Ident)
  | [] => []
  | t :: rest => (occurrences t).map (fun o => (i :: o.1, o.2)) ++ occurrencesFrom (i + 1) rest

end

theorem isCover_node (kind : Kind) (span : Span) (data : Fields) (parts : List Tree) :
    (Tree.node kind span data parts).isCover = Kind.hidesUses kind := by
  cases kind <;> rfl

/-! ## Going down -/

theorem at?_cons {t child : Tree} {i : Nat} (h : t.children[i]? = some child) (rest : Address) :
    t.at? (i :: rest) = child.at? rest := by
  rw [at?, h]

theorem at?_cons_eq_some {t u : Tree} {i : Nat} {rest : Address} :
    t.at? (i :: rest) = some u ↔
      ∃ child, t.children[i]? = some child ∧ child.at? rest = some u := by
  rw [at?]
  cases t.children[i]? <;> simp

theorem at?_append {t u : Tree} {a : Address} (h : t.at? a = some u) (rest : Address) :
    t.at? (a ++ rest) = u.at? rest := by
  induction a generalizing t with
  | nil =>
    cases h
    rfl
  | cons i a ih =>
    obtain ⟨child, hchild, hat⟩ := at?_cons_eq_some.1 h
    rw [List.cons_append, at?_cons hchild, ih hat]

theorem isOpen_nil {t : Tree} : t.IsOpen [] ↔ t.isCover = false := by
  constructor
  · intro h
    exact h [] (List.prefix_refl _) t rfl
  · intro h front hfront cover hcover
    rw [List.prefix_nil.1 hfront] at hcover
    cases hcover
    exact h

theorem isOpen_cons {t child : Tree} {i : Nat} {rest : Address}
    (hchild : t.children[i]? = some child) :
    t.IsOpen (i :: rest) ↔ t.isCover = false ∧ child.IsOpen rest := by
  constructor
  · intro h
    refine ⟨h [] List.nil_prefix t rfl, ?_⟩
    intro front hfront cover hcover
    refine h (i :: front) (List.cons_prefix_cons.2 ⟨rfl, hfront⟩) cover ?_
    rw [at?_cons hchild, hcover]
  · rintro ⟨ht, h⟩ front hfront cover hcover
    rcases List.prefix_cons_iff.1 hfront with rfl | ⟨below, rfl, hbelow⟩
    · cases hcover
      exact ht
    · rw [at?_cons hchild] at hcover
      exact h below hbelow cover hcover

/-! ## Occurrences -/

theorem map_snd_occurrencesFrom {ts : List Tree}
    (h : ∀ t ∈ ts, (occurrences t).map Prod.snd = uses t) (i : Nat) :
    (occurrencesFrom i ts).map Prod.snd = usesAll ts := by
  induction ts generalizing i with
  | nil => rfl
  | cons t rest ih =>
    have ht := h t (by simp)
    have hrest := ih (fun u hu => h u (by simp [hu])) (i + 1)
    rw [occurrencesFrom, List.map_append, List.map_map, usesAll, hrest, ← ht]
    rfl

theorem map_snd_occurrences (t : Tree) : (occurrences t).map Prod.snd = uses t := by
  induction t with
  | absent => rfl
  | use id => rfl
  | binder id ascription _ => rfl
  | seq items ih => exact map_snd_occurrencesFrom ih 0
  | node kind span data parts ih =>
    rw [occurrences, uses]
    split
    · rfl
    · exact map_snd_occurrencesFrom ih 0

/-- The occurrences in some trees are those of the tree at the position that comes first. -/
theorem mem_occurrencesFrom {ts : List Tree} {i : Nat} {a : Address} {id : Ident} :
    (a, id) ∈ occurrencesFrom i ts ↔
      ∃ j child rest, ts[j]? = some child ∧ a = (i + j) :: rest ∧ (rest, id) ∈ occurrences child := by
  induction ts generalizing i with
  | nil => simp [occurrencesFrom]
  | cons t ts ih =>
    rw [occurrencesFrom, List.mem_append, ih]
    constructor
    · rintro (hmem | ⟨j, child, rest, hchild, rfl, hmem⟩)
      · obtain ⟨⟨rest, own⟩, hown, heq⟩ := List.mem_map.1 hmem
        cases heq
        exact ⟨0, t, rest, rfl, rfl, hown⟩
      · refine ⟨j + 1, child, rest, hchild, ?_, hmem⟩
        rw [Nat.add_assoc, Nat.add_comm 1 j]
    · rintro ⟨j, child, rest, hchild, rfl, hmem⟩
      cases j with
      | zero =>
        cases hchild
        exact .inl (List.mem_map.2 ⟨(rest, id), hmem, rfl⟩)
      | succ j =>
        refine .inr ⟨j, child, rest, hchild, ?_, hmem⟩
        rw [Nat.add_assoc, Nat.add_comm 1 j]

theorem mem_occurrences_of_children {t : Tree} (hcover : t.isCover = false)
    (hoccurrences : occurrences t = occurrencesFrom 0 t.children)
    (hne : ∀ id, t ≠ .use id)
    (ih : ∀ child ∈ t.children, ∀ a id,
      (a, id) ∈ occurrences child ↔ child.at? a = some (.use id) ∧ child.IsOpen a)
    (a : Address) (id : Ident) :
    (a, id) ∈ occurrences t ↔ t.at? a = some (.use id) ∧ t.IsOpen a := by
  rw [hoccurrences, mem_occurrencesFrom]
  constructor
  · rintro ⟨i, child, rest, hchild, rfl, hmem⟩
    obtain ⟨hat, hopen⟩ := (ih child (List.mem_of_getElem? hchild) rest id).1 hmem
    rw [Nat.zero_add, at?_cons hchild, isOpen_cons hchild]
    exact ⟨hat, hcover, hopen⟩
  · rintro ⟨hat, hopen⟩
    cases a with
    | nil => exact absurd (Option.some.inj hat) (hne id)
    | cons i rest =>
      obtain ⟨child, hchild, hat⟩ := at?_cons_eq_some.1 hat
      have hmem := (ih child (List.mem_of_getElem? hchild) rest id).2
        ⟨hat, ((isOpen_cons hchild).1 hopen).2⟩
      exact ⟨i, child, rest, hchild, by rw [Nat.zero_add], hmem⟩

theorem not_isOpen_of_isCover {t : Tree} (h : t.isCover = true) (a : Address) : ¬t.IsOpen a := by
  intro hopen
  have hnot := hopen [] List.nil_prefix t rfl
  rw [h] at hnot
  cases hnot

/-- The uses of a tree are its identifiers that are not inside a binding identifier, an import
declaration or a closing tag. -/
theorem mem_occurrences (t : Tree) (a : Address) (id : Ident) :
    (a, id) ∈ occurrences t ↔ t.at? a = some (.use id) ∧ t.IsOpen a := by
  induction t generalizing a id with
  | absent => exact mem_occurrences_of_children rfl rfl (by simp) (by simp [children]) a id
  | use own =>
    rw [occurrences, List.mem_singleton, Prod.mk.injEq]
    constructor
    · rintro ⟨rfl, rfl⟩
      exact ⟨rfl, isOpen_nil.2 rfl⟩
    · rintro ⟨hat, -⟩
      cases a with
      | nil =>
        cases hat
        exact ⟨rfl, rfl⟩
      | cons i rest => cases hat
  | binder own ascription _ =>
    have hcover := not_isOpen_of_isCover (t := .binder own ascription) rfl a
    simp [occurrences, hcover]
  | seq items ih =>
    exact mem_occurrences_of_children (t := .seq items) rfl rfl (by simp) ih a id
  | node kind span data parts ih =>
    have hcover := isCover_node kind span data parts
    cases hkind : Kind.hidesUses kind with
    | true =>
      have hnot := not_isOpen_of_isCover (hcover.trans hkind) a
      simp [occurrences, hkind, hnot]
    | false =>
      refine mem_occurrences_of_children (hcover.trans hkind) ?_ (by simp) ih a id
      rw [occurrences, hkind]
      rfl

theorem pairwise_occurrencesFrom {ts : List Tree}
    (h : ∀ t ∈ ts, (occurrences t).Pairwise fun o o' => o.1 < o'.1) (i : Nat) :
    (occurrencesFrom i ts).Pairwise fun o o' => o.1 < o'.1 := by
  induction ts generalizing i with
  | nil => exact .nil
  | cons t rest ih =>
    have ht := h t (by simp)
    have hrest := ih (fun u hu => h u (by simp [hu])) (i + 1)
    rw [occurrencesFrom, List.pairwise_append]
    refine ⟨?_, hrest, ?_⟩
    · rw [List.pairwise_map]
      exact ht.imp fun hlt => List.cons_lt_cons_iff.2 (.inr ⟨rfl, hlt⟩)
    · rintro ⟨a, id⟩ hmem ⟨a', id'⟩ hmem'
      obtain ⟨⟨b, id''⟩, -, heq⟩ := List.mem_map.1 hmem
      cases heq
      obtain ⟨j, child, rest', -, rfl, -⟩ := mem_occurrencesFrom.1 hmem'
      have hlt : i < i + 1 + j := by omega
      exact List.cons_lt_cons_iff.2 (.inl hlt)

theorem pairwise_occurrences (t : Tree) :
    (occurrences t).Pairwise fun o o' => o.1 < o'.1 := by
  induction t with
  | absent => exact .nil
  | use id => exact List.pairwise_singleton _ _
  | binder id ascription _ => exact .nil
  | seq items ih => exact pairwise_occurrencesFrom ih 0
  | node kind span data parts ih =>
    rw [occurrences]
    split
    · exact .nil
    · exact pairwise_occurrencesFrom ih 0

end Tree

namespace Program

def tree (p : Program) : Tree := .seq p.body

theorem map_snd_occurrences_tree (p : Program) : p.tree.occurrences.map Prod.snd = p.uses :=
  Tree.map_snd_occurrences p.tree

end Program
end ImportMacros
