import ImportMacros.Proofs.Tree

/-!
# ImportMacros.Proofs.Sketch

What a statement is read from. `Tree.sketch` drops everything of a tree that neither the `require`
of a declarator nor its bindings are read from: type ascriptions, and the parts of nodes whose
items can go. Trees of one sketch have the same `require` key and bind the same names, so a change
that keeps the sketch keeps the statement as far as its handling goes.
-/

namespace ImportMacros

/-- Kinds of node of which removal and tidying keep the number of subtrees and items. -/
def Kind.isRigid : Kind → Bool
  | .variableDeclaration | .block | .moduleBlock | .switchCase | .ifStatement | .labeledStatement
  | .whileStatement | .doWhileStatement | .withStatement | .forStatement | .forInStatement
  | .forOfStatement => false
  | _ => true

namespace Tree

mutual

/-- A tree without ascriptions and without the parts of nodes that are not rigid. -/
def sketch : Tree → Tree
  | .absent => .absent
  | .use id => .use id
  | .binder id _ => .binder id .absent
  | .seq items => .seq (sketchAll items)
  | .node kind span data parts =>
    .node kind span data (if kind.isRigid then sketchAll parts else [])

def sketchAll : List Tree → List Tree
  | [] => []
  | t :: rest => sketch t :: sketchAll rest

end

theorem sketchAll_eq (ts : List Tree) : sketchAll ts = ts.map sketch := by
  induction ts with
  | nil => rfl
  | cons t rest ih => simp [sketchAll, ih]

/-! ## The trees of a given sketch -/

@[simp] theorem sketch_eq_absent {t : Tree} : sketch t = .absent ↔ t = .absent := by
  cases t <;> simp [sketch]

@[simp] theorem sketch_eq_use {t : Tree} {id : Ident} : sketch t = .use id ↔ t = .use id := by
  cases t <;> simp [sketch]

@[simp] theorem sketch_eq_binder {t ascription : Tree} {id : Ident} :
    sketch t = .binder id ascription ↔ ascription = .absent ∧ ∃ own, t = .binder id own := by
  cases t with
  | binder id' own =>
    simp only [sketch, binder.injEq, exists_eq_right']
    exact ⟨fun h => ⟨h.2.symm, h.1⟩, fun h => ⟨h.2, h.1.symm⟩⟩
  | _ => simp [sketch]

@[simp] theorem sketch_eq_seq {t : Tree} {items : List Tree} :
    sketch t = .seq items ↔ ∃ own, t = .seq own ∧ own.map sketch = items := by
  cases t <;> simp [sketch, sketchAll_eq]

@[simp] theorem sketch_eq_node {t : Tree} {kind : Kind} {span : Span} {data : Fields}
    {parts : List Tree} : sketch t = .node kind span data parts ↔
      ∃ own, t = .node kind span data own ∧
        (if kind.isRigid then own.map sketch else []) = parts := by
  cases t with
  | node kind' span' data' own =>
    simp only [sketch, sketchAll_eq, node.injEq]
    constructor
    · rintro ⟨rfl, rfl, rfl, h⟩
      exact ⟨own, ⟨rfl, rfl, rfl, rfl⟩, h⟩
    · rintro ⟨_, ⟨rfl, rfl, rfl, rfl⟩, h⟩
      exact ⟨rfl, rfl, rfl, h⟩
  | _ => simp [sketch]

/-! ## What a sketch keeps -/

theorem requiredSource?_sketch (t : Tree) : (sketch t).requiredSource? = t.requiredSource? := by
  fun_cases requiredSource? t with
  | case3 t h =>
    unfold requiredSource?
    split
    · rename_i ht
      simp [Kind.isRigid, List.map_eq_cons_iff] at ht
      exact (h _ _ _ _ _ _ _ ht).elim
    · rfl
  | _ => simp_all [sketch, sketchAll, Kind.isRigid, requiredSource?, text?]

theorem requireKey?_sketch (t : Tree) : (sketch t).requireKey? = t.requireKey? := by
  fun_cases requireKey? t with
  | case1 span data target value =>
    simp [sketch, sketchAll, Kind.isRigid, requireKey?, requiredSource?_sketch]
  | case2 t h =>
    unfold requireKey?
    split
    · rename_i ht
      obtain ⟨own, rfl, h'⟩ := sketch_eq_node.1 ht
      simp only [Kind.isRigid, if_true, List.map_eq_cons_iff, List.map_eq_nil_iff] at h'
      obtain ⟨target, _, rfl, -, value, _, rfl, -, rfl⟩ := h'
      exact (h _ _ _ _ rfl).elim
    · rfl

theorem requireKey?_of_sketch {t u : Tree} (h : sketch t = sketch u) :
    t.requireKey? = u.requireKey? := by
  rw [← requireKey?_sketch t, h, requireKey?_sketch]

theorem ofProperty_sketch (t : Tree) :
    Binding.ofProperty (sketch t) = Binding.ofProperty t := by
  fun_cases Binding.ofProperty t with
  | case2 span data parts h =>
    have hparts : ∀ own ascription, parts.map sketch ≠ [.binder own ascription, .absent] := by
      intro own ascription h'
      simp only [List.map_eq_cons_iff, List.map_eq_nil_iff] at h'
      obtain ⟨first, _, rfl, hfirst, second, _, rfl, hsecond, rfl⟩ := h'
      obtain ⟨-, own', rfl⟩ := sketch_eq_binder.1 hfirst
      cases sketch_eq_absent.1 hsecond
      exact h _ _ rfl
    simp only [sketch, Kind.isRigid, if_true, sketchAll_eq]
    unfold Binding.ofProperty
    split <;> simp_all
  | case5 span data value span' data' parts h =>
    simp only [sketch, sketchAll, Kind.isRigid, if_true, Binding.ofProperty]
    split
    · rename_i hvalue
      obtain ⟨-, own, rfl⟩ := sketch_eq_binder.1 hvalue
      exact (h _ _ rfl).elim
    · rfl
  | case6 span data key value h =>
    simp only [sketch, sketchAll, Kind.isRigid, if_true, Binding.ofProperty]
    split
    · rename_i hkey
      obtain ⟨own, rfl, -⟩ := sketch_eq_node.1 hkey
      exact (h _ _ _ rfl).elim
    · rfl
  | case7 t h h' h'' =>
    unfold Binding.ofProperty
    split
    · rename_i ht
      obtain ⟨own, rfl, -⟩ := sketch_eq_node.1 ht
      exact (h' _ _ _ rfl).elim
    · rename_i ht
      obtain ⟨own, rfl, -⟩ := sketch_eq_node.1 ht
      exact (h' _ _ _ rfl).elim
    · rename_i ht
      obtain ⟨own, rfl, hown⟩ := sketch_eq_node.1 ht
      simp only [Kind.isRigid, if_true, List.map_eq_cons_iff, List.map_eq_nil_iff] at hown
      obtain ⟨key, _, rfl, -, value, _, rfl, -, rfl⟩ := hown
      exact (h'' _ _ _ _ rfl).elim
    · rfl
  | _ => simp_all [sketch, sketchAll, Kind.isRigid, Binding.ofProperty]

theorem collect_map_sketch (scope : Nat) (ts : List Tree) :
    Bindings.collect Binding.ofProperty scope (ts.map sketch) =
      Bindings.collect Binding.ofProperty scope ts := by
  induction ts generalizing scope with
  | nil => rfl
  | cons t rest ih => simp only [List.map_cons, Bindings.collect, ofProperty_sketch, ih]

theorem bindings_requiring_sketch (key : Key) (target : Tree) :
    (Statement.requiring key (sketch target)).bindings =
      (Statement.requiring key target).bindings := by
  cases target with
  | node kind span data parts =>
    by_cases hkind : kind = .objectPattern
    · subst hkind
      simp only [sketch, Kind.isRigid, if_true, sketchAll_eq]
      rcases parts with _ | ⟨first, _ | ⟨second, rest⟩⟩
      · rfl
      · cases first with
        | seq items => simp [sketch, Statement.bindings, sketchAll_eq, collect_map_sketch]
        | _ => rfl
      · cases first <;> rfl
    · simp only [sketch]
      unfold Statement.bindings
      split <;> simp_all
  | _ => rfl

theorem ownVariable_sketch (t : Tree) : ownVariable (sketch t) = ownVariable t := by
  cases t <;> rfl

theorem defaultVariable_sketch (t : Tree) : defaultVariable (sketch t) = defaultVariable t := by
  fun_cases defaultVariable t with
  | case3 t hfunction hclass =>
    unfold defaultVariable
    split
    · rename_i ht
      obtain ⟨own, rfl, hown⟩ := sketch_eq_node.1 ht
      simp only [Kind.isRigid, if_true, List.map_eq_cons_iff, List.map_eq_nil_iff] at hown
      obtain ⟨identifier, _, rfl, -, head, _, rfl, -, _, _, rfl, hbody, rfl⟩ := hown
      obtain ⟨body, rfl, -⟩ := sketch_eq_node.1 hbody
      exact (hfunction _ _ _ _ _ _ _ _ rfl).elim
    · rename_i ht
      obtain ⟨own, rfl, hown⟩ := sketch_eq_node.1 ht
      simp only [Kind.isRigid, if_true, List.map_eq_cons_iff] at hown
      obtain ⟨identifier, rest, rfl, -⟩ := hown
      exact (hclass _ _ _ _ rfl).elim
    · rfl
  | _ => simp [sketch, sketchAll, Kind.isRigid, defaultVariable, ownVariable_sketch]

theorem named_map_sketch (kind : Kind) (parts : List Tree) :
    named kind (parts.map sketch) = named kind parts := by
  rcases parts with _ | ⟨first, _ | ⟨second, rest⟩⟩
  · rfl
  · simp only [List.map_cons, List.map_nil]
    unfold named
    split <;> grind [ownVariable_sketch, defaultVariable_sketch]
  · simp only [List.map_cons]
    unfold named
    split <;> grind [ownVariable_sketch]

theorem bindings_requiring_of_sketch {t u : Tree} (key : Key) (h : sketch t = sketch u) :
    (Statement.requiring key t).bindings = (Statement.requiring key u).bindings := by
  rw [← bindings_requiring_sketch key t, h, bindings_requiring_sketch]

end Tree
end ImportMacros
