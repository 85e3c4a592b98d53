import ImportMacros.Proofs.Sketch

/-!
# ImportMacros.Proofs.Tidy

Clearing away declarations that declare nothing is invisible to the rest of an expansion. It keeps
what is used (`uses_tidy`), what is declared (`declared_tidy`) and the statements of a tree in
their order (`statements_tidy`); of a statement it changes at most what stands inside its target
(`Statement.tidied`), which its handling does not look at (`Statement.outline_tidied`). Where no
declaration declares nothing it changes nothing (`tidy_eq_self`).
-/

namespace ImportMacros

/-- A statement as its handling sees it. -/
structure Outline where
  isImport : Bool
  key : Key
  bindings : Except UnsupportedBinding Bindings

namespace Statement

def outline (s : Statement) : Outline :=
  match s with
  | .importing key _ => ⟨true, key, s.bindings⟩
  | .requiring key _ => ⟨false, key, s.bindings⟩

def tidied : Statement → Statement
  | .importing key specifiers => .importing key specifiers
  | .requiring key target => .requiring key target.tidy

@[simp] theorem outline_key (s : Statement) : s.outline.key = s.key := by cases s <;> rfl

@[simp] theorem outline_bindings (s : Statement) : s.outline.bindings = s.bindings := by
  cases s <;> rfl

@[simp] theorem tidied_key (s : Statement) : s.tidied.key = s.key := by cases s <;> rfl

end Statement

namespace Tree

theorem tidyParts_of_rigid {kind : Kind} (h : kind.isRigid = true) (parts : List Tree) :
    tidyParts kind parts = parts := by
  unfold tidyParts
  split <;> first | rfl | cases h

theorem tidy_node_of_ne {kind : Kind} (h : kind ≠ .importDeclaration) (span : Span) (data : Fields)
    (parts : List Tree) :
    tidy (.node kind span data parts) = .node kind span data (tidyParts kind (parts.map tidy)) := by
  rw [tidy, if_neg h, tidyAll_eq]

theorem tidy_import (span : Span) (data : Fields) (parts : List Tree) :
    tidy (.node .importDeclaration span data parts) =
      .node .importDeclaration span data parts := by
  rw [tidy, if_pos rfl]

theorem sketch_tidy (t : Tree) : sketch (tidy t) = sketch t := by
  induction t with
  | absent => rfl
  | use id => rfl
  | binder id ascription => rfl
  | seq items ih => simpa [tidy, sketch, tidyAll_eq, sketchAll_eq] using ih
  | node kind span data parts ih =>
    by_cases hkind : kind = .importDeclaration
    · subst hkind
      rw [tidy_import]
    · rw [tidy_node_of_ne hkind]
      cases hrigid : kind.isRigid with
      | true => simpa [sketch, sketchAll_eq, hrigid, tidyParts_of_rigid hrigid] using ih
      | false => simp [sketch, hrigid]

end Tree

theorem Statement.outline_tidied (s : Statement) : s.tidied.outline = s.outline := by
  cases s with
  | importing key specifiers => rfl
  | requiring key target =>
    simp only [tidied, outline, Tree.bindings_requiring_of_sketch key (Tree.sketch_tidy target)]

namespace Tree

/-! ## The statement that a tree is -/

theorem importKey?_of_ne {kind : Kind} (h : kind ≠ .importDeclaration) (span : Span) (data : Fields)
    (parts : List Tree) : (Tree.node kind span data parts).importKey? = none := by
  unfold importKey?
  split
  · rename_i hnode
    cases hnode
    exact absurd rfl h
  · rfl

theorem exists_of_importKey? {t : Tree} {key : Key} (h : t.importKey? = some key) :
    ∃ data parts, t = .node .importDeclaration key.span data parts := by
  unfold importKey? at h
  split at h
  · obtain ⟨_, -, rfl⟩ := Option.map_eq_some_iff.1 h
    exact ⟨_, _, rfl⟩
  · cases h

theorem exists_of_requireKey? {t : Tree} {key : Key} (h : t.requireKey? = some key) :
    ∃ data target value, t = .node .variableDeclarator key.span data [target, value] ∧
      value.requiredSource? = some key.source := by
  unfold requireKey? at h
  split at h
  · obtain ⟨source, hsource, rfl⟩ := Option.map_eq_some_iff.1 h
    exact ⟨_, _, _, rfl, hsource⟩
  · cases h

theorem statement?_of_importKey? {t : Tree} {key : Key} (h : t.importKey? = some key) :
    t.statement? = some (.importing key (t.part 0).items) := by
  simp [statement?, h]

theorem statement?_of_requireKey? {t : Tree} {key : Key} (h : t.requireKey? = some key) :
    t.statement? = some (.requiring key (t.part 0)) := by
  obtain ⟨data, target, value, rfl, -⟩ := exists_of_requireKey? h
  simp [statement?, h, importKey?_of_ne]

theorem importKey?_of_statement? {t : Tree} {key : Key} {specifiers : List Tree}
    (h : t.statement? = some (.importing key specifiers)) : t.importKey? = some key := by
  unfold statement? at h
  split at h
  · rename_i k hk
    cases h
    exact hk
  · obtain ⟨k, -, heq⟩ := Option.map_eq_some_iff.1 h
    cases heq

theorem requireKey?_of_statement? {t target : Tree} {key : Key}
    (h : t.statement? = some (.requiring key target)) : t.requireKey? = some key := by
  unfold statement? at h
  split at h
  · cases h
  · obtain ⟨k, hk, heq⟩ := Option.map_eq_some_iff.1 h
    cases heq
    exact hk

theorem statement?_of_ne {kind : Kind} (h : kind ≠ .importDeclaration)
    (h' : kind ≠ .variableDeclarator) (span : Span) (data : Fields) (parts : List Tree) :
    (Tree.node kind span data parts).statement? = none := by
  have hrequire : (Tree.node kind span data parts).requireKey? = none := by
    unfold requireKey?
    split
    · rename_i hnode
      cases hnode
      exact absurd rfl h'
    · rfl
  simp [statement?, importKey?_of_ne h, hrequire]

theorem statement?_tidy (t : Tree) : (tidy t).statement? = t.statement?.map Statement.tidied := by
  cases t with
  | node kind span data parts =>
    by_cases hkind : kind = .importDeclaration
    · subst hkind
      rw [tidy_import]
      cases h : (Tree.node .importDeclaration span data parts).importKey? with
      | some key => rw [statement?_of_importKey? h]; rfl
      | none => simp [statement?, h, requireKey?]
    · have hkey := requireKey?_of_sketch (sketch_tidy (.node kind span data parts))
      have himport : (tidy (.node kind span data parts)).importKey? = none := by
        rw [tidy_node_of_ne hkind, importKey?_of_ne hkind]
      cases h : (Tree.node kind span data parts).requireKey? with
      | some key =>
        rw [statement?_of_requireKey? h, statement?_of_requireKey? (hkey.trans h)]
        obtain ⟨data, target, value, hnode, -⟩ := exists_of_requireKey? h
        rw [hnode, tidy_node_of_ne (by decide), tidyParts_of_rigid (by rfl)]
        rfl
      | none => simp [statement?, himport, importKey?_of_ne hkind, hkey, h]
  | _ => rfl

theorem ownStatement?_tidy (wanted : String → Bool) (t : Tree) :
    ownStatement? wanted (tidy t) = (ownStatement? wanted t).map Statement.tidied := by
  simp only [ownStatement?, statement?_tidy]
  cases t.statement? with
  | none => rfl
  | some s =>
    have hsource : s.tidied.source = s.source := by
      rw [Statement.source, Statement.source, Statement.tidied_key]
    cases hs : wanted s.source <;> simp [Option.filter, hsource, hs]

theorem mem_ownStatement? {wanted : String → Bool} {t : Tree} {s : Statement} :
    s ∈ (ownStatement? wanted t).toList ↔ t.statement? = some s ∧ wanted s.source = true := by
  rw [Option.mem_toList, ownStatement?, Option.filter_eq_some_iff]

theorem ownStatement?_of_ne (wanted : String → Bool) {kind : Kind}
    (h : kind ≠ .importDeclaration) (h' : kind ≠ .variableDeclarator) (span : Span) (data : Fields)
    (parts : List Tree) : ownStatement? wanted (.node kind span data parts) = none := by
  rw [ownStatement?, statement?_of_ne h h']; rfl

/-! ## Lists that tidying keeps -/

theorem eq_of_isEmptied {t : Tree} (h : t.isEmptied = true) :
    ∃ span data, t = .node .variableDeclaration span data [.seq []] := by
  unfold isEmptied at h
  split at h
  · exact ⟨_, _, rfl⟩
  · cases h

theorem eq_of_isEmptiedItem {t : Tree} (h : t.isEmptiedItem = true) :
    t.isEmptied = true ∨
      ∃ span data u, t = .node .exportDeclaration span data [u] ∧ u.isEmptied = true := by
  unfold isEmptiedItem at h
  split at h
  · exact .inr ⟨_, _, _, rfl, h⟩
  · exact .inl h

theorem reading_statements (wanted : String → Bool) : Reading (statements wanted) where
  absent := rfl
  seq items := by rw [statements, statementsAll_eq]
  emptied t h := by
    rcases eq_of_isEmptiedItem h with h | ⟨span, data, u, rfl, h⟩ <;>
      obtain ⟨span', data', rfl⟩ := eq_of_isEmptied h <;>
      simp [statements, statementsAll, ownStatement?_of_ne]
  emptyStatement := by simp [emptyStatement, statements, statementsAll, ownStatement?_of_ne]

theorem reading_uses : Reading uses where
  absent := rfl
  seq items := by rw [uses, usesAll_eq]
  emptied t h := by
    rcases eq_of_isEmptiedItem h with h | ⟨span, data, u, rfl, h⟩ <;>
      obtain ⟨span', data', rfl⟩ := eq_of_isEmptied h <;> rfl
  emptyStatement := rfl

theorem reading_declared (declaring : Bool) : Reading (declared declaring) where
  absent := rfl
  seq items := by rw [declared, declaredAll_eq]
  emptied t h := by
    rcases eq_of_isEmptiedItem h with h | ⟨span, data, u, rfl, h⟩ <;>
      obtain ⟨span', data', rfl⟩ := eq_of_isEmptied h <;> rfl
  emptyStatement := rfl

theorem statements_node_of_ne (wanted : String → Bool) {kind : Kind}
    (h : kind ≠ .importDeclaration) (span : Span) (data : Fields) (parts : List Tree) :
    statements wanted (.node kind span data parts) =
      (ownStatement? wanted (.node kind span data parts)).toList ++
        parts.flatMap (statements wanted) := by
  rw [statements, if_neg h, statementsAll_eq]

theorem statements_tidy (wanted : String → Bool) (t : Tree) :
    statements wanted (tidy t) = (statements wanted t).map Statement.tidied := by
  induction t with
  | absent => rfl
  | use id => rfl
  | binder id ascription ih => exact ih
  | seq items ih =>
    simp only [tidy, statements, statementsAll_eq, tidyAll_eq, List.flatMap_map, List.map_flatMap]
    exact List.flatMap_congr ih
  | node kind span data parts ih =>
    have hown := ownStatement?_tidy wanted (.node kind span data parts)
    by_cases hkind : kind = .importDeclaration
    · subst hkind
      rw [tidy_import] at hown ⊢
      simp only [statements, if_true, List.append_nil]
      rw [← Option.toList_map, ← hown]
    · rw [tidy_node_of_ne hkind] at hown ⊢
      rw [statements_node_of_ne wanted hkind, statements_node_of_ne wanted hkind, hown,
        (reading_statements wanted).tidyParts, List.map_append, Option.toList_map,
        List.flatMap_map, List.map_flatMap]
      congr 1
      exact List.flatMap_congr ih

theorem uses_tidy (t : Tree) : uses (tidy t) = uses t := by
  induction t with
  | absent => rfl
  | use id => rfl
  | binder id ascription ih => rfl
  | seq items ih =>
    simp only [tidy, uses, usesAll_eq, tidyAll_eq, List.flatMap_map]
    exact List.flatMap_congr ih
  | node kind span data parts ih =>
    by_cases hkind : kind = .importDeclaration
    · subst hkind
      rw [tidy_import]
    · rw [tidy_node_of_ne hkind, uses, uses]
      split
      · rfl
      · rw [usesAll_eq, usesAll_eq, reading_uses.tidyParts, List.flatMap_map]
        exact List.flatMap_congr ih

/-! ## What a node declares -/

/-- Whether binders in the subtrees of a node declare, where that is the same for all of them. -/
def declaresIn (kind : Kind) (declaring : Bool) : Bool :=
  kind == .parameter || (declaring && !kind.isExpression)

theorem declared_declarator (declaring : Bool) (span : Span) (data : Fields)
    (target value : Tree) :
    declared declaring (.node .variableDeclarator span data [target, value]) =
      declared true target ++ declared false value := by
  simp [declared, named]

theorem declared_arrow (declaring : Bool) (span : Span) (data : Fields) (params body : Tree) :
    declared declaring (.node .arrow span data [params, body]) =
      declared true params ++ declared (!params.items.isEmpty) body := by
  simp [declared, named]

theorem declared_node (declaring : Bool) {kind : Kind} {parts : List Tree}
    (h : kind = .variableDeclarator ∨ kind = .arrow → parts.length ≠ 2) (span : Span)
    (data : Fields) :
    declared declaring (.node kind span data parts) =
      named kind parts ++ parts.flatMap (declared (declaresIn kind declaring)) := by
  rw [declared.eq_def]
  simp only [List.append_cancel_left_eq]
  split
  · exact absurd rfl (h (.inl rfl))
  · exact absurd rfl (h (.inr rfl))
  · rw [declaredAll_eq]; rfl
  · rename_i hparameter _ _
    have hkind : (kind == .parameter) = false := by simpa using hparameter
    rw [declaredAll_eq, declaresIn, hkind, Bool.false_or]

theorem sketch_map_tidy (parts : List Tree) : (parts.map tidy).map sketch = parts.map sketch := by
  simp [sketch_tidy]

theorem named_map_tidy (kind : Kind) (parts : List Tree) :
    named kind (tidyParts kind (parts.map tidy)) = named kind parts := by
  cases hrigid : kind.isRigid with
  | true =>
    rw [tidyParts_of_rigid hrigid, ← named_map_sketch, sketch_map_tidy, named_map_sketch]
  | false =>
    have hnone : ∀ own, named kind own = [] := by
      intro own
      unfold named
      split <;> first | rfl | cases hrigid
    rw [hnone, hnone]

theorem isEmpty_items_tidy (t : Tree) : (tidy t).items.isEmpty = t.items.isEmpty := by
  cases t with
  | seq items => cases items <;> rfl
  | node kind span data parts =>
    by_cases hkind : kind = .importDeclaration
    · subst hkind
      rw [tidy_import]
    · rw [tidy_node_of_ne hkind]; rfl
  | _ => rfl

theorem declared_tidy (declaring : Bool) (t : Tree) :
    declared declaring (tidy t) = declared declaring t := by
  induction t generalizing declaring with
  | absent => rfl
  | use id => rfl
  | binder id ascription => rfl
  | seq items ih =>
    simp only [tidy, declared, declaredAll_eq, tidyAll_eq, List.flatMap_map]
    exact List.flatMap_congr fun t ht => ih t ht declaring
  | node kind span data parts ih =>
    by_cases hkind : kind = .importDeclaration
    · subst hkind
      rw [tidy_import]
    · rw [tidy_node_of_ne hkind]
      by_cases hpair : (kind = .variableDeclarator ∨ kind = .arrow) ∧ parts.length = 2
      · obtain ⟨hkind, hlength⟩ := hpair
        obtain ⟨first, second, rfl⟩ := List.length_eq_two.1 hlength
        have hfirst := ih first (by simp)
        have hsecond := ih second (by simp)
        rcases hkind with rfl | rfl
        · rw [tidyParts_of_rigid (by rfl)]
          simp only [List.map_cons, List.map_nil, declared_declarator, hfirst, hsecond]
        · rw [tidyParts_of_rigid (by rfl)]
          simp only [List.map_cons, List.map_nil, declared_arrow, hfirst, hsecond,
            isEmpty_items_tidy]
      · have hparts : kind = .variableDeclarator ∨ kind = .arrow →
            (tidyParts kind (parts.map tidy)).length ≠ 2 := by
          rintro (rfl | rfl) <;> rw [tidyParts_of_rigid (by rfl)] <;> simpa using hpair
        rw [declared_node declaring hparts, declared_node declaring (not_and.1 hpair),
          named_map_tidy, (reading_declared _).tidyParts, List.flatMap_map]
        congr 1
        exact List.flatMap_congr fun t ht => ih t ht _

/-! ## Trees that are tidy already -/

mutual

/-- Whether a declaration that declares nothing stands anywhere in a tree. -/
def hasEmptied : Tree → Bool
  | .absent => false
  | .use _ => false
  | .binder _ ascription => hasEmptied ascription
  | .seq items => anyHasEmptied items
  | .node kind span data parts => isEmptied (.node kind span data parts) || anyHasEmptied parts

def anyHasEmptied : List Tree → Bool
  | [] => false
  | t :: rest => hasEmptied t || anyHasEmptied rest

end

theorem anyHasEmptied_eq (ts : List Tree) : anyHasEmptied ts = ts.any hasEmptied := by
  induction ts with
  | nil => rfl
  | cons t rest ih => rw [anyHasEmptied, ih, List.any_cons]

theorem isEmptied_of_not_hasEmptied {t : Tree} (h : t.hasEmptied = false) :
    t.isEmptied = false := by
  cases t with
  | node kind span data parts =>
    rw [hasEmptied, Bool.or_eq_false_iff] at h
    exact h.1
  | _ => rfl

theorem isEmptiedItem_of_not_hasEmptied {t : Tree} (h : t.hasEmptied = false) :
    t.isEmptiedItem = false := by
  rw [Bool.eq_false_iff]
  intro hitem
  rcases eq_of_isEmptiedItem hitem with hown | ⟨span, data, u, rfl, hu⟩
  · rw [isEmptied_of_not_hasEmptied h] at hown
    cases hown
  · simp only [hasEmptied, anyHasEmptied, Bool.or_eq_false_iff] at h
    rw [isEmptied_of_not_hasEmptied h.2.1] at hu
    cases hu

theorem dropEmptied_eq_self {items : List Tree} (h : ∀ t ∈ items, t.hasEmptied = false) :
    dropEmptied items = items := by
  rw [dropEmptied, List.filter_eq_self]
  intro t ht
  rw [isEmptiedItem_of_not_hasEmptied (h t ht)]
  rfl

theorem tidyList_eq_self {t : Tree} (h : t.hasEmptied = false) : tidyList t = t := by
  cases t with
  | seq items =>
    have hitems : ∀ t ∈ items, t.hasEmptied = false := by
      simpa [hasEmptied, anyHasEmptied_eq] using h
    rw [tidyList, dropEmptied_eq_self hitems]
  | _ => rfl

theorem tidyBody_eq_self {t : Tree} (h : t.hasEmptied = false) : tidyBody t = t := by
  rw [tidyBody, if_neg (Bool.eq_false_iff.1 (isEmptied_of_not_hasEmptied h))]

theorem tidyParts_eq_self (kind : Kind) {parts : List Tree}
    (h : ∀ t ∈ parts, t.hasEmptied = false) : tidyParts kind parts = parts := by
  unfold tidyParts
  split <;>
    simp_all [tidyList_eq_self, tidyBody_eq_self, isEmptied_of_not_hasEmptied]

theorem tidyAll_eq_self {ts : List Tree} (h : ∀ t ∈ ts, tidy t = t) : tidyAll ts = ts := by
  rw [tidyAll_eq, List.map_congr_left h]
  exact List.map_id ts

theorem tidy_eq_self {t : Tree} (h : t.hasEmptied = false) : tidy t = t := by
  induction t with
  | absent => rfl
  | use id => rfl
  | binder id ascription ih => rw [tidy, ih h]
  | seq items ih =>
    have hitems : ∀ t ∈ items, t.hasEmptied = false := by
      simpa [hasEmptied, anyHasEmptied_eq] using h
    rw [tidy, tidyAll_eq_self fun t ht => ih t ht (hitems t ht)]
  | node kind span data parts ih =>
    have hparts : ∀ t ∈ parts, t.hasEmptied = false := by
      rw [hasEmptied, Bool.or_eq_false_iff] at h
      simpa [anyHasEmptied_eq] using h.2
    by_cases hkind : kind = .importDeclaration
    · subst hkind
      rw [tidy_import]
    · rw [tidy, if_neg hkind, tidyAll_eq_self fun t ht => ih t ht (hparts t ht),
        tidyParts_eq_self kind hparts]

end Tree
end ImportMacros
