import Mathlib.Data.List.Forall2
import ImportMacros.Proofs.Tidy

/-!
# ImportMacros.Proofs.Drop

Dropping a declarator, as a relation: `Drops key t u` when `u` is `t` without one declarator of
`key`. `drops_of_dropRequire?` is the only fact about `dropRequire?` itself; what it does to the
lists that are read off a tree is proved by induction on `Drops`.

* `Drops.uses` and `Drops.declared`: nothing new is used or declared.
* `Drops.statements`: the statements of the declarator are gone, those after it are as they were,
  and those before it are touched at most inside their target, where the declarator stood.
-/

namespace ImportMacros
namespace Tree

inductive Drops (key : Key) : Tree → Tree → Prop where
  | declarator {d : Tree} (span : Span) (data : Fields) (front back : List Tree) :
      d.requireKey? = some key →
      Drops key (.node .variableDeclaration span data [.seq (front ++ d :: back)])
        (.node .variableDeclaration span data [.seq (front ++ back)])
  | binder {t u : Tree} (id : Ident) : Drops key t u → Drops key (.binder id t) (.binder id u)
  | seq {t u : Tree} (front back : List Tree) :
      Drops key t u → Drops key (.seq (front ++ t :: back)) (.seq (front ++ u :: back))
  | node {t u : Tree} {kind : Kind} (span : Span) (data : Fields) (front back : List Tree) :
      kind ≠ .importDeclaration → Drops key t u →
      Drops key (.node kind span data (front ++ t :: back))
        (.node kind span data (front ++ u :: back))

section Functions

variable {key : Key}

theorem eraseFirst?_eq_some {test : Tree → Bool} {ts us : List Tree}
    (h : eraseFirst? test ts = some us) :
    ∃ front t back, ts = front ++ t :: back ∧ us = front ++ back ∧ test t = true := by
  induction ts generalizing us with
  | nil => cases h
  | cons t rest ih =>
    rw [eraseFirst?] at h
    split at h
    · rename_i ht
      cases h
      exact ⟨[], t, rest, rfl, rfl, ht⟩
    · obtain ⟨vs, hvs, rfl⟩ := Option.map_eq_some_iff.1 h
      obtain ⟨front, u, back, rfl, rfl, hu⟩ := ih hvs
      exact ⟨t :: front, u, back, rfl, rfl, hu⟩

theorem eraseFirst?_eq_none {test : Tree → Bool} {ts : List Tree} :
    eraseFirst? test ts = none ↔ ∀ t ∈ ts, test t = false := by
  induction ts with
  | nil => simp [eraseFirst?]
  | cons t rest ih => cases ht : test t <;> simp [eraseFirst?, ht, ih]

theorem dropRequireIn?_eq_some {ts us : List Tree} (h : dropRequireIn? key ts = some us) :
    ∃ front t u back, ts = front ++ t :: back ∧ us = front ++ u :: back ∧
      dropRequire? key t = some u := by
  induction ts generalizing us with
  | nil => cases h
  | cons t rest ih =>
    rw [dropRequireIn?] at h
    split at h
    · rename_i u hu
      cases h
      exact ⟨[], t, u, rest, rfl, rfl, hu⟩
    · obtain ⟨vs, hvs, rfl⟩ := Option.map_eq_some_iff.1 h
      obtain ⟨front, w, x, back, rfl, rfl, hw⟩ := ih hvs
      exact ⟨t :: front, w, x, back, rfl, rfl, hw⟩

theorem dropRequireIn?_eq_none {ts : List Tree} :
    dropRequireIn? key ts = none ↔ ∀ t ∈ ts, dropRequire? key t = none := by
  induction ts with
  | nil => simp [dropRequireIn?]
  | cons t rest ih =>
    rw [dropRequireIn?]
    cases ht : dropRequire? key t <;> simp [ht, ih]

theorem dropDeclarator?_eq_some {t u : Tree} (h : dropDeclarator? key t = some u) :
    Drops key t u := by
  unfold dropDeclarator? at h
  split at h
  · rename_i span data declarators
    obtain ⟨rest, hrest, rfl⟩ := Option.map_eq_some_iff.1 h
    obtain ⟨front, d, back, rfl, rfl, hd⟩ := eraseFirst?_eq_some hrest
    exact .declarator span data front back (by simpa [requires] using hd)
  · cases h

theorem drops_of_dropRequire? {t u : Tree} (h : dropRequire? key t = some u) :
    Drops key t u := by
  induction t generalizing u with
  | absent => cases h
  | use id => cases h
  | binder id ascription ih =>
    obtain ⟨v, hv, rfl⟩ := Option.map_eq_some_iff.1 h
    exact .binder id (ih hv)
  | seq items ih =>
    obtain ⟨vs, hvs, rfl⟩ := Option.map_eq_some_iff.1 h
    obtain ⟨front, w, x, back, rfl, rfl, hw⟩ := dropRequireIn?_eq_some hvs
    exact .seq front back (ih w (by simp) hw)
  | node kind span data parts ih =>
    rw [dropRequire?] at h
    split at h
    · rename_i v hv
      cases h
      exact dropDeclarator?_eq_some hv
    · split at h
      · cases h
      · rename_i hkind
        obtain ⟨vs, hvs, rfl⟩ := Option.map_eq_some_iff.1 h
        obtain ⟨front, w, x, back, rfl, rfl, hw⟩ := dropRequireIn?_eq_some hvs
        exact .node span data front back hkind (ih w (by simp) hw)

end Functions

namespace Drops

variable {key : Key} {t u : Tree}

theorem sketch (h : Drops key t u) : Tree.sketch u = Tree.sketch t := by
  induction h with
  | declarator span data front back hd => rfl
  | binder id _ ih => rfl
  | seq front back _ ih => simp [Tree.sketch, sketchAll_eq, ih]
  | node span data front back hkind _ ih => simp [Tree.sketch, sketchAll_eq, ih]

theorem uses (h : Drops key t u) : (Tree.uses u).Sublist (Tree.uses t) := by
  induction h with
  | declarator span data front back hd =>
    simp only [Tree.uses, usesAll_eq, Kind.hidesUses, List.flatMap_append, List.flatMap_cons,
      List.flatMap_nil, List.append_nil, Bool.false_eq_true, if_false]
    exact (List.sublist_append_right _ _).append_left _
  | binder id _ ih => exact List.Sublist.refl _
  | seq front back _ ih =>
    simp only [Tree.uses, usesAll_eq, List.flatMap_append, List.flatMap_cons]
    exact (ih.append_right _).append_left _
  | node span data front back hkind _ ih =>
    simp only [Tree.uses, usesAll_eq, List.flatMap_append, List.flatMap_cons]
    split
    · exact List.Sublist.refl _
    · exact (ih.append_right _).append_left _

theorem isEmpty_items (h : Drops key t u) : u.items.isEmpty = t.items.isEmpty := by
  cases h with
  | seq front back _ => cases front <;> rfl
  | _ => rfl

theorem declared (h : Drops key t u) (declaring : Bool) :
    (Tree.declared declaring u).Sublist (Tree.declared declaring t) := by
  induction h generalizing declaring with
  | declarator span data front back hd =>
    rw [declared_node declaring (by simp), declared_node declaring (by simp)]
    simp only [Tree.declared, declaredAll_eq, List.flatMap_append, List.flatMap_cons,
      List.flatMap_nil, List.append_nil]
    exact ((List.sublist_append_right _ _).append_left _).append_left _
  | binder id _ ih => exact List.Sublist.refl _
  | seq front back _ ih =>
    simp only [Tree.declared, declaredAll_eq, List.flatMap_append, List.flatMap_cons]
    exact ((ih declaring).append_right _).append_left _
  | @node t u kind span data front back hkind hdrops ih =>
    by_cases hpair : (kind = .variableDeclarator ∨ kind = .arrow) ∧
        (front ++ t :: back).length = 2
    · obtain ⟨hkind, hlength⟩ := hpair
      obtain ⟨rfl, hback⟩ | ⟨first, rfl, rfl⟩ :
          (front = [] ∧ back.length = 1) ∨ ∃ first, front = [first] ∧ back = [] := by
        rcases front with _ | ⟨first, _ | ⟨_, _⟩⟩
        · exact .inl ⟨rfl, by simpa using hlength⟩
        · exact .inr ⟨first, rfl, by simpa using hlength⟩
        · simp at hlength
      · obtain ⟨second, rfl⟩ := List.length_eq_one_iff.1 hback
        rcases hkind with rfl | rfl
        · simp only [List.nil_append, declared_declarator]
          exact (ih true).append_right _
        · simp only [List.nil_append, declared_arrow, hdrops.isEmpty_items]
          exact (ih true).append_right _
      · rcases hkind with rfl | rfl
        · simp only [List.cons_append, List.nil_append, declared_declarator]
          exact (ih false).append_left _
        · simp only [List.cons_append, List.nil_append, declared_arrow]
          exact (ih _).append_left _
    · have hnamed : named kind (front ++ u :: back) = named kind (front ++ t :: back) := by
        rw [← named_map_sketch kind (front ++ u :: back),
          ← named_map_sketch kind (front ++ t :: back)]
        simp [hdrops.sketch]
      rw [declared_node declaring (not_and.1 hpair),
        declared_node declaring (by simpa using not_and.1 hpair), hnamed]
      simp only [List.flatMap_append, List.flatMap_cons]
      exact (((ih _).append_right _).append_left _).append_left _

end Drops

end Tree

/-! ## The statements that are left -/

namespace Statement

def inside (wanted : String → Bool) : Statement → List Statement
  | .importing _ _ => []
  | .requiring _ target => target.statements wanted

/-- `s'` is `s`, or `s` without a declarator of the key in its target. -/
def Dropped (key : Key) (s s' : Statement) : Prop :=
  s' = s ∨ ∃ own target target',
    s = .requiring own target ∧ s' = .requiring own target' ∧ Tree.Drops key target target'

theorem Dropped.refl (key : Key) (s : Statement) : Dropped key s s := .inl rfl

/-- `s'` is `s`, or `s` with something changed inside its target, where there were statements. -/
def Touched (wanted : String → Bool) (s s' : Statement) : Prop :=
  s'.outline = s.outline ∧ (s.inside wanted = [] → s' = s)

theorem Touched.refl (wanted : String → Bool) (s : Statement) : Touched wanted s s :=
  ⟨rfl, fun _ => rfl⟩

theorem outlines_of_touched {wanted : String → Bool} {ss ss' : List Statement}
    (h : List.Forall₂ (Touched wanted) ss ss') : ss'.map outline = ss.map outline := by
  induction h with
  | nil => rfl
  | cons hs _ ih => rw [List.map_cons, List.map_cons, hs.1, ih]

end Statement

namespace Tree

open Statement (Dropped)

variable {wanted : String → Bool} {key : Key}

theorem ownStatement?_of_requireKey? {t : Tree} (h : t.requireKey? = some key) :
    ownStatement? wanted t =
      if wanted key.source then some (.requiring key (t.part 0)) else none := by
  rw [ownStatement?, statement?_of_requireKey? h]
  rfl

theorem statements_of_requiredSource? {t : Tree} {source : String}
    (h : t.requiredSource? = some source) : t.statements wanted = [] := by
  unfold requiredSource? at h
  split at h
  · simp [statements, statementsAll, ownStatement?_of_ne]
  · cases h

theorem statements_of_requireKey? {d : Tree} (h : d.requireKey? = some key)
    (hwanted : wanted key.source = true) :
    ∃ target, statements wanted d = .requiring key target :: target.statements wanted := by
  obtain ⟨data, target, value, rfl, hvalue⟩ := exists_of_requireKey? h
  refine ⟨target, ?_⟩
  rw [statements_node_of_ne wanted (by decide), ownStatement?_of_requireKey? h, if_pos hwanted]
  simp [part, statements_of_requiredSource? hvalue]

/-- A declarator is dropped from the statement that a node is by itself if it is dropped from the
first subtree. -/
theorem Drops.own {t u : Tree} {kind : Kind} (h : Drops key t u) (hkind : kind ≠ .importDeclaration)
    (span : Span) (data : Fields) (front back : List Tree) :
    List.Forall₂ (Dropped key)
      (ownStatement? wanted (.node kind span data (front ++ t :: back))).toList
      (ownStatement? wanted (.node kind span data (front ++ u :: back))).toList := by
  have hkey := requireKey?_of_sketch (Drops.node span data front back hkind h).sketch
  cases hrequire : (Tree.node kind span data (front ++ t :: back)).requireKey? with
  | none =>
    rw [hrequire] at hkey
    simp [ownStatement?, statement?, importKey?_of_ne hkind, hkey, hrequire]
  | some k =>
    rw [hrequire] at hkey
    rw [ownStatement?_of_requireKey? hrequire, ownStatement?_of_requireKey? hkey]
    split
    · refine .cons ?_ .nil
      rcases front with _ | ⟨first, rest⟩
      · exact .inr ⟨k, t, u, rfl, rfl, h⟩
      · exact .refl key _
    · exact .nil

theorem Drops.statements {t u : Tree} (h : Drops key t u) (wanted : String → Bool) :
    ∃ front front' d back, d.requireKey? = some key ∧
      Tree.statements wanted t = front ++ (Tree.statements wanted d ++ back) ∧
      Tree.statements wanted u = front' ++ back ∧ List.Forall₂ (Dropped key) front front' := by
  induction h with
  | @declarator d span data front back hd =>
    refine ⟨front.flatMap (Tree.statements wanted), front.flatMap (Tree.statements wanted), d,
      back.flatMap (Tree.statements wanted), hd, ?_, ?_, List.forall₂_same.2 fun s _ => .refl _ s⟩
    · simp [Tree.statements, ownStatement?_of_ne, statementsAll_eq]
    · simp [Tree.statements, ownStatement?_of_ne, statementsAll_eq]
  | binder id _ ih => exact ih
  | seq before after _ ih =>
    obtain ⟨front, front', d, back, hd, ht, hu, hdropped⟩ := ih
    refine ⟨before.flatMap (Tree.statements wanted) ++ front,
      before.flatMap (Tree.statements wanted) ++ front', d,
      back ++ after.flatMap (Tree.statements wanted), hd, ?_, ?_, ?_⟩
    · simp [Tree.statements, statementsAll_eq, ht]
    · simp [Tree.statements, statementsAll_eq, hu]
    · exact List.rel_append (List.forall₂_same.2 fun s _ => .refl _ s) hdropped
  | @node t u kind span data before after hkind hdrops ih =>
    obtain ⟨front, front', d, back, hd, ht, hu, hdropped⟩ := ih
    refine ⟨(ownStatement? wanted (.node kind span data (before ++ t :: after))).toList ++
        (before.flatMap (Tree.statements wanted) ++ front),
      (ownStatement? wanted (.node kind span data (before ++ u :: after))).toList ++
        (before.flatMap (Tree.statements wanted) ++ front'), d,
      back ++ after.flatMap (Tree.statements wanted), hd, ?_, ?_, ?_⟩
    · rw [statements_node_of_ne wanted hkind]
      simp [ht]
    · rw [statements_node_of_ne wanted hkind]
      simp [hu]
    · exact List.rel_append (hdrops.own hkind span data before after)
        (List.rel_append (List.forall₂_same.2 fun s _ => .refl _ s) hdropped)

end Tree

/-- A declarator of a wanted key is dropped from targets with statements only. -/
theorem Statement.Dropped.touched {wanted : String → Bool} {key : Key} {s s' : Statement}
    (h : Dropped key s s') (hwanted : wanted key.source = true) : Touched wanted s s' := by
  rcases h with rfl | ⟨own, target, target', rfl, rfl, hdrops⟩
  · exact .refl wanted _
  · refine ⟨?_, fun hinside => ?_⟩
    · simp only [outline, Tree.bindings_requiring_of_sketch own hdrops.sketch]
    · obtain ⟨front, front', d, back, hd, htarget, -, -⟩ := hdrops.statements wanted
      obtain ⟨below, hbelow⟩ := Tree.statements_of_requireKey? hd hwanted
      have hnone : target.statements wanted = [] := hinside
      rw [htarget, hbelow] at hnone
      simp at hnone

end ImportMacros
