import Mathlib.Data.List.Flatten
import Mathlib.Data.List.Nodup
import Mathlib.Data.List.Perm.Subperm
import ImportMacros.Proofs.Placement

/-!
# ImportMacros.Proofs.Removal

What the removal of a statement leaves.

* Of any program: nothing new is used or declared (`remove_uses`, `remove_declared`), no statement
  becomes a stray (`remove_strays`), the statements that are left are some of those before
  (`remove_outlines`), and a removal that reports a success has taken one of the key
  (`remove_keys`).
* Of a program without strays: the removal of one of its statements succeeds
  (`remove_of_strays_eq_nil`), and if the keys differ and the statement has nothing inside, all
  others are left in their order (`remove_of_isClear`).
-/

namespace ImportMacros
namespace Tree

variable {wanted : String → Bool} {key : Key}

theorem importKey?_tidy (t : Tree) : (tidy t).importKey? = t.importKey? := by
  cases t with
  | node kind span data parts =>
    by_cases hkind : kind = .importDeclaration
    · subst hkind
      rw [tidy_import]
    · rw [tidy_node_of_ne hkind, importKey?_of_ne hkind, importKey?_of_ne hkind]
  | _ => rfl

theorem Drops.importKey? {t u : Tree} (h : Drops key t u) :
    t.importKey? = none ∧ u.importKey? = none := by
  cases h with
  | declarator span data front back hd =>
    exact ⟨importKey?_of_ne (by decide) .., importKey?_of_ne (by decide) ..⟩
  | binder id _ => exact ⟨rfl, rfl⟩
  | seq front back _ => exact ⟨rfl, rfl⟩
  | node span data front back hkind _ =>
    exact ⟨importKey?_of_ne hkind .., importKey?_of_ne hkind ..⟩

theorem statements_of_importKey? {t : Tree} (h : t.importKey? = some key) :
    statements wanted t =
      if wanted key.source then [.importing key (t.part 0).items] else [] := by
  have hown : ownStatement? wanted t =
      if wanted key.source then some (.importing key (t.part 0).items) else none := by
    rw [ownStatement?, statement?_of_importKey? h]
    rfl
  obtain ⟨data, parts, rfl⟩ := exists_of_importKey? h
  rw [statements, if_pos rfl, hown, List.append_nil]
  split <;> rfl

theorem importKey?_of_mem_own {t : Tree} {specifiers : List Tree}
    (h : .importing key specifiers ∈ (ownStatement? wanted t).toList) :
    t.importKey? = some key :=
  importKey?_of_statement? (mem_ownStatement?.1 h).1

/-- Inside of trees all imports are strays. -/
theorem mem_strays_of_importing {t : Tree} {specifiers : List Tree} {spot : Spot}
    (h : .importing key specifiers ∈ statements wanted t) :
    .importing key specifiers ∈ strays wanted spot t := by
  induction t generalizing spot with
  | absent => cases h
  | use id => cases h
  | binder id ascription ih => exact ih h
  | seq items ih =>
    simp only [statements, statementsAll_eq, strays, straysAll_eq, List.mem_flatMap] at h ⊢
    obtain ⟨t, ht, h⟩ := h
    exact ⟨t, ht, ih t ht h⟩
  | node kind span data parts ih =>
    rw [statements] at h
    rw [strays]
    rcases List.mem_append.1 h with h | h
    · refine List.mem_append_left _ ?_
      have hkey := importKey?_of_mem_own h
      obtain ⟨data', parts', hnode⟩ := exists_of_importKey? hkey
      rw [hnode] at h ⊢
      rwa [ownStray?, if_neg (by simp [requireKey?])]
    · refine List.mem_append_right _ ?_
      split at h
      · cases h
      · rename_i hkind
        rw [if_neg hkind, straysAll_eq]
        rw [statementsAll_eq] at h
        obtain ⟨t, ht, h⟩ := List.mem_flatMap.1 h
        exact List.mem_flatMap.2 ⟨t, ht, ih t ht h⟩

end Tree

namespace Program

variable {wanted : String → Bool} {key : Key} {p q : Program}

def keys (wanted : String → Bool) (p : Program) : List Key :=
  (p.statements wanted).map Statement.key

theorem statements_eq (p : Program) :
    p.statements wanted = p.body.flatMap (Tree.statements wanted) :=
  Tree.statementsAll_eq wanted p.body

theorem keys_eq (p : Program) :
    p.keys wanted = p.body.flatMap fun item => (item.statements wanted).map Statement.key := by
  rw [keys, statements_eq, List.map_flatMap]

theorem strays_eq_nil :
    p.strays wanted = [] ↔ ∀ item ∈ p.body,
      (p.isModule && item.importKey?.isSome) = true ∨ item.strays wanted .elsewhere = [] := by
  simp only [strays, List.flatMap_eq_nil_iff]
  refine forall₂_congr fun item _ => ?_
  split <;> simp_all

/-! ## Tidying -/

theorem statements_tidy (p : Program) :
    p.tidy.statements wanted = (p.statements wanted).map Statement.tidied := by
  simp only [statements_eq, tidy, (Tree.reading_statements wanted).dropEmptied, Tree.tidyAll_eq,
    List.flatMap_map, List.map_flatMap, Tree.statements_tidy]

theorem uses_tidy (p : Program) : p.tidy.uses = p.uses := by
  simp only [uses, Tree.usesAll_eq, tidy, Tree.reading_uses.dropEmptied, Tree.tidyAll_eq,
    List.flatMap_map, Tree.uses_tidy]

theorem declared_tidy (p : Program) : p.tidy.declared = p.declared := by
  simp only [declared, Tree.declaredAll_eq, tidy, (Tree.reading_declared _).dropEmptied,
    Tree.tidyAll_eq, List.flatMap_map, Tree.declared_tidy]

theorem strays_tidy (h : p.strays wanted = []) : p.tidy.strays wanted = [] := by
  rw [strays_eq_nil] at h ⊢
  intro item hitem
  simp only [tidy, Tree.dropEmptied, Tree.tidyAll_eq] at hitem
  obtain ⟨t, ht, rfl⟩ := List.mem_map.1 (List.mem_filter.1 hitem).1
  rcases h t ht with h | h
  · rw [Tree.importKey?_tidy]
    exact .inl h
  · exact .inr (Tree.strays_tidy h)

/-! ## Dropping -/

theorem drops_of_dropRequire? (h : p.dropRequire? key = some q) :
    q.isModule = p.isModule ∧ ∃ front t u back, p.body = front ++ t :: back ∧
      q.body = front ++ u :: back ∧ Tree.Drops key t u := by
  obtain ⟨body, hbody, rfl⟩ := Option.map_eq_some_iff.1 h
  obtain ⟨front, t, u, back, ht, hu, htu⟩ := Tree.dropRequireIn?_eq_some hbody
  exact ⟨rfl, front, t, u, back, ht, hu, Tree.drops_of_dropRequire? htu⟩

theorem drops_seq_of_dropRequire? (h : p.dropRequire? key = some q) :
    Tree.Drops key (.seq p.body) (.seq q.body) := by
  obtain ⟨-, front, t, u, back, ht, hu, htu⟩ := drops_of_dropRequire? h
  rw [ht, hu]
  exact .seq front back htu

/-- The statements before the one that is dropped may have held it, those inside of it go with
it, and those after it stay. -/
theorem dropped_of_dropRequire? (h : p.dropRequire? key = some q)
    (hwanted : wanted key.source = true) :
    ∃ front front' target back,
      p.statements wanted = front ++ .requiring key target :: (target.statements wanted ++ back) ∧
      q.statements wanted = front' ++ back ∧
      List.Forall₂ (Statement.Dropped key) front front' := by
  obtain ⟨front, front', d, back, hd, hp, hq, hdropped⟩ :=
    (drops_seq_of_dropRequire? h).statements wanted
  obtain ⟨target, htarget⟩ := Tree.statements_of_requireKey? hd hwanted
  rw [htarget, List.cons_append] at hp
  exact ⟨front, front', target, back, hp, hq, hdropped⟩

theorem statements_of_dropRequire? (h : p.dropRequire? key = some q)
    (hwanted : wanted key.source = true) :
    ∃ front front' target back,
      p.statements wanted = front ++ .requiring key target :: (target.statements wanted ++ back) ∧
      q.statements wanted = front' ++ back ∧
      List.Forall₂ (Statement.Touched wanted) front front' := by
  obtain ⟨front, front', target, back, hp, hq, hdropped⟩ := dropped_of_dropRequire? h hwanted
  exact ⟨front, front', target, back, hp, hq, hdropped.imp fun _ _ hs => hs.touched hwanted⟩

theorem dropRequire?_strays (h : p.dropRequire? key = some q) (hp : p.strays wanted = []) :
    q.strays wanted = [] := by
  obtain ⟨hmodule, front, t, u, back, ht, hu, htu⟩ := drops_of_dropRequire? h
  rw [strays_eq_nil] at hp ⊢
  rw [ht] at hp
  rw [hu, hmodule]
  intro item hitem
  rcases List.mem_append.1 hitem with hitem | hitem
  · exact hp item (List.mem_append_left _ hitem)
  · rcases List.mem_cons.1 hitem with rfl | hitem
    · rcases hp t (by simp) with hp | hp
      · simp [htu.importKey?.1] at hp
      · exact .inr (htu.strays hp)
    · exact hp item (by simp [hitem])

theorem cons_subperm {α : Type} {x : α} {front front' back back' : List α}
    (hfront : front'.Sublist front) (hback : back'.Sublist back) :
    (x :: (front' ++ back')).Subperm (front ++ (x :: back)) := by
  have h : (x :: (front' ++ back')).Sublist (x :: (front ++ back)) :=
    (hfront.append hback).cons_cons x
  exact h.subperm.trans List.perm_middle.symm.subperm

theorem dropImports_sublist (key : Key) (p : Program) :
    (p.dropImports key).body.Sublist p.body :=
  List.filter_sublist

/-! ## Removal from any program -/

theorem remove_preserves {P : Program → Prop} (s : Statement) (h : P p)
    (himports : P (p.dropImports s.key)) (hdrop : ∀ q, p.dropRequire? s.key = some q → P q)
    (htidy : ∀ q, P q → P q.tidy) : P (p.remove s).1 := by
  cases s with
  | importing key specifiers =>
    rw [remove]
    split
    · exact himports
    · exact h
  | requiring key target =>
    rw [remove]
    cases hq : p.dropRequire? key with
    | some q => exact htidy q (hdrop q hq)
    | none => exact htidy p h

theorem remove_uses (s : Statement) (p : Program) : (p.remove s).1.uses.Sublist p.uses := by
  refine remove_preserves (P := fun q => q.uses.Sublist p.uses) s (List.Sublist.refl _) ?_ ?_ ?_
  · simp only [uses, Tree.usesAll_eq]
    exact (dropImports_sublist s.key p).flatMap _
  · exact fun q hq => (drops_seq_of_dropRequire? hq).uses
  · exact fun q hq => (uses_tidy q).symm ▸ hq

theorem remove_declared (s : Statement) (p : Program) :
    (p.remove s).1.declared.Sublist p.declared := by
  refine remove_preserves (P := fun q => q.declared.Sublist p.declared) s (List.Sublist.refl _)
    ?_ ?_ ?_
  · simp only [declared, Tree.declaredAll_eq]
    exact (dropImports_sublist s.key p).flatMap _
  · exact fun q hq => (drops_seq_of_dropRequire? hq).declared false
  · exact fun q hq => (declared_tidy q).symm ▸ hq

theorem remove_strays (s : Statement) (h : p.strays wanted = []) :
    (p.remove s).1.strays wanted = [] := by
  refine remove_preserves (P := fun q => q.strays wanted = []) s h ?_ ?_ fun q => strays_tidy
  · rw [strays_eq_nil] at h ⊢
    exact fun item hitem => h item ((dropImports_sublist s.key p).subset hitem)
  · exact fun q hq => dropRequire?_strays hq h

theorem remove_outlines {s : Statement} (hwanted : wanted s.source = true) (p : Program) :
    (((p.remove s).1.statements wanted).map Statement.outline).Sublist
      ((p.statements wanted).map Statement.outline) := by
  refine remove_preserves (P := fun q => ((q.statements wanted).map Statement.outline).Sublist
    ((p.statements wanted).map Statement.outline)) s (List.Sublist.refl _) ?_ ?_ ?_
  · rw [statements_eq, statements_eq]
    exact ((dropImports_sublist s.key p).flatMap _).map _
  · intro q hq
    obtain ⟨front, front', target, back, hp, hq, htouched⟩ :=
      statements_of_dropRequire? hq hwanted
    rw [hp, hq, List.map_append, List.map_append, List.map_cons, List.map_append,
      Statement.outlines_of_touched htouched]
    exact ((List.sublist_append_right _ _).cons _).append_left _
  · intro q hq
    rwa [statements_tidy, List.map_map,
      show Statement.outline ∘ Statement.tidied = Statement.outline from
        funext Statement.outline_tidied]

theorem remove_keys_sublist {s : Statement} (hwanted : wanted s.source = true) (p : Program) :
    ((p.remove s).1.keys wanted).Sublist (p.keys wanted) := by
  simpa [keys, Function.comp_def] using (remove_outlines hwanted p).map Outline.key

theorem keys_dropImports (hwanted : wanted key.source = true) {item : Tree} (hitem : item ∈ p.body)
    (hkey : item.importKey? = some key) :
    (key :: (p.dropImports key).keys wanted).Subperm (p.keys wanted) := by
  obtain ⟨front, back, hbody⟩ := List.append_of_mem hitem
  have hdropped : (p.dropImports key).body =
      (front.filter fun item => item.importKey? != some key) ++
        back.filter fun item => item.importKey? != some key := by
    simp [dropImports, hbody, hkey]
  rw [keys_eq, keys_eq, hdropped, hbody, List.flatMap_append, List.flatMap_append,
    List.flatMap_cons, Tree.statements_of_importKey? hkey, if_pos hwanted]
  exact cons_subperm (List.filter_sublist.flatMap _) (List.filter_sublist.flatMap _)

theorem keys_dropRequire? (h : p.dropRequire? key = some q) (hwanted : wanted key.source = true) :
    (key :: q.tidy.keys wanted).Subperm (p.keys wanted) := by
  obtain ⟨front, front', target, back, hp, hq, htouched⟩ := statements_of_dropRequire? h hwanted
  have hfront : front'.map Statement.key = front.map Statement.key := by
    simpa [Function.comp_def] using
      congrArg (List.map Outline.key) (Statement.outlines_of_touched htouched)
  have htidy : Statement.key ∘ Statement.tidied = Statement.key := funext Statement.tidied_key
  simp only [keys, statements_tidy, List.map_map, htidy, hp, hq, List.map_append, List.map_cons,
    hfront]
  exact cons_subperm (List.Sublist.refl _) (List.sublist_append_right _ _)

/-- A removal that reports a success has taken a statement with the key. -/
theorem remove_keys {s : Statement} (hwanted : wanted s.source = true)
    (h : (p.remove s).2 = true) :
    (s.key :: (p.remove s).1.keys wanted).Subperm (p.keys wanted) := by
  cases s with
  | importing key specifiers =>
    rw [remove] at h ⊢
    split at h
    · rename_i hmodule
      obtain ⟨item, hitem, hkey⟩ : ∃ item ∈ p.body, item.importKey? = some key := by
        simpa [dropImports] using h
      rw [if_pos hmodule]
      exact keys_dropImports hwanted hitem hkey
    · cases h
  | requiring key target =>
    rw [remove] at h ⊢
    cases hdrop : p.dropRequire? key with
    | none => rw [hdrop] at h; cases h
    | some q => exact keys_dropRequire? hdrop hwanted

/-! ## Removal from a program without strays -/

theorem importKey?_of_strays_eq_nil (hp : p.strays wanted = []) {specifiers : List Tree}
    (hs : .importing key specifiers ∈ p.statements wanted) :
    p.isModule = true ∧ ∃ item ∈ p.body, item.importKey? = some key := by
  rw [statements_eq] at hs
  obtain ⟨item, hitem, hs⟩ := List.mem_flatMap.1 hs
  rcases strays_eq_nil.1 hp item hitem with h | h
  · obtain ⟨hmodule, hkey⟩ := Bool.and_eq_true_iff.1 h
    obtain ⟨k, hk⟩ := Option.isSome_iff_exists.1 hkey
    rw [Tree.statements_of_importKey? hk] at hs
    split at hs
    · cases List.mem_singleton.1 hs
      exact ⟨hmodule, item, hitem, hk⟩
    · cases hs
  · have hstray : .importing key specifiers ∈ item.strays wanted .elsewhere :=
      Tree.mem_strays_of_importing hs
    rw [h] at hstray
    cases hstray

theorem dropRequire?_of_strays_eq_nil (hp : p.strays wanted = []) {target : Tree}
    (hs : .requiring key target ∈ p.statements wanted) : ∃ q, p.dropRequire? key = some q := by
  rw [← Option.isSome_iff_exists, ← Option.ne_none_iff_isSome]
  intro hnone
  rw [statements_eq] at hs
  obtain ⟨item, hitem, hs⟩ := List.mem_flatMap.1 hs
  rcases strays_eq_nil.1 hp item hitem with h | h
  · obtain ⟨k, hk⟩ := Option.isSome_iff_exists.1 (Bool.and_eq_true_iff.1 h).2
    rw [Tree.statements_of_importKey? hk] at hs
    split at hs
    · cases List.mem_singleton.1 hs
    · cases hs
  · have hdrop := Tree.dropRequireIn?_eq_none.1 (Option.map_eq_none_iff.1 hnone) item hitem
    have hstray : .requiring key target ∈ item.strays wanted .elsewhere :=
      Tree.mem_strays_of_dropRequire? hdrop (by simp) (by simp) hs
    rw [h] at hstray
    cases hstray

theorem remove_of_strays_eq_nil (hp : p.strays wanted = []) {s : Statement}
    (hs : s ∈ p.statements wanted) : (p.remove s).2 = true := by
  cases s with
  | importing key specifiers =>
    obtain ⟨hmodule, item, hitem, hkey⟩ := importKey?_of_strays_eq_nil hp hs
    rw [remove, if_pos hmodule]
    simp only [dropImports, bne_iff_ne, ne_eq]
    exact Nat.ne_of_lt (List.length_filter_lt_length_iff_exists.2 ⟨item, hitem, by simp [hkey]⟩)
  | requiring key target =>
    obtain ⟨q, hq⟩ := dropRequire?_of_strays_eq_nil hp hs
    simp only [remove, hq]

end Program

namespace Statement

variable {wanted : String → Bool}

/-- No statements and nothing to tidy inside of a statement. -/
def IsClear (wanted : String → Bool) (s : Statement) : Prop :=
  s.inside wanted = [] ∧ s.tidied = s

/-- `s'` is what is left of `s` when other statements are removed: `s` itself if it is clear. -/
def Kept (wanted : String → Bool) (s s' : Statement) : Prop :=
  s'.outline = s.outline ∧ (s.IsClear wanted → s' = s)

theorem Kept.refl (s : Statement) : Kept wanted s s := ⟨rfl, fun _ => rfl⟩

theorem Kept.trans {s s' s'' : Statement} (h : Kept wanted s s') (h' : Kept wanted s' s'') :
    Kept wanted s s'' := by
  refine ⟨h'.1.trans h.1, fun hs => ?_⟩
  have heq := h.2 hs
  rw [h'.2 (heq ▸ hs), heq]

theorem Kept.of_touched {s s' : Statement} (h : Touched wanted s s') :
    Kept wanted s s'.tidied := by
  refine ⟨(outline_tidied s').trans h.1, fun hs => ?_⟩
  rw [h.2 hs.1, hs.2]

end Statement

namespace Program

variable {wanted : String → Bool} {p : Program} {s : Statement} {front back : List Statement}

theorem key_notMem_of_keys_nodup (hkeys : (p.keys wanted).Nodup)
    (h : p.statements wanted = front ++ s :: back) :
    s.key ∉ front.map Statement.key ∧ s.key ∉ back.map Statement.key := by
  rw [keys, h, List.map_append, List.map_cons, List.nodup_middle, List.nodup_cons,
    List.mem_append, not_or] at hkeys
  exact hkeys.1

/-- A key that no other statement has marks the place of the statement. -/
theorem statement_eq_of_keys_nodup {front' back' : List Statement} {s' : Statement}
    (hkeys : (p.keys wanted).Nodup) (h : p.statements wanted = front ++ s :: back)
    (h' : p.statements wanted = front' ++ s' :: back') (hkey : s'.key = s.key) :
    front = front' ∧ s = s' ∧ back = back' := by
  have hs : s' = s := List.inj_on_of_nodup_map hkeys (by simp [h']) (by simp [h]) hkey
  subst hs
  have hnotMem := key_notMem_of_keys_nodup hkeys h
  exact (List.append_cons_inj_of_notMem (fun hs => hnotMem.1 (List.mem_map_of_mem hs))
    (fun hs => hnotMem.2 (List.mem_map_of_mem hs))).1 (h.symm.trans h')

open Statement (IsClear Kept)

theorem statements_dropImports (hkeys : (p.keys wanted).Nodup) {key : Key}
    (hwanted : wanted key.source = true) {specifiers : List Tree}
    (h : p.statements wanted = front ++ .importing key specifiers :: back) {item : Tree}
    (hitem : item ∈ p.body) (hkey : item.importKey? = some key) :
    (p.dropImports key).statements wanted = front ++ back := by
  obtain ⟨before, after, hbody⟩ := List.append_of_mem hitem
  have h' : p.statements wanted = before.flatMap (Tree.statements wanted) ++
      .importing key (item.part 0).items :: after.flatMap (Tree.statements wanted) := by
    simp [statements_eq, hbody, Tree.statements_of_importKey? hkey, hwanted]
  obtain ⟨hfront, -, hback⟩ := statement_eq_of_keys_nodup hkeys h h' rfl
  have hnotMem := key_notMem_of_keys_nodup hkeys h'
  -- another import of the key would be another statement
  have hkeeps : ∀ items : List Tree,
      key ∉ (items.flatMap (Tree.statements wanted)).map Statement.key →
      (items.filter fun item => item.importKey? != some key) = items := by
    intro items hitems
    refine List.filter_eq_self.2 fun t ht => bne_iff_ne.2 fun htkey => hitems ?_
    have hmem : .importing key (t.part 0).items ∈ items.flatMap (Tree.statements wanted) :=
      List.mem_flatMap.2 ⟨t, ht, by simp [Tree.statements_of_importKey? htkey, hwanted]⟩
    exact List.mem_map_of_mem hmem
  have hdropped : (p.dropImports key).body = before ++ after := by
    simp [dropImports, hbody, hkey, hkeeps before hnotMem.1, hkeeps after hnotMem.2]
  rw [statements_eq, hdropped, List.flatMap_append, hfront, hback]

/-- The removal of a clear statement takes it and nothing else. -/
theorem remove_of_isClear (hp : p.strays wanted = []) (hkeys : (p.keys wanted).Nodup)
    (hwanted : wanted s.source = true) (h : p.statements wanted = front ++ s :: back)
    (hs : s.IsClear wanted) :
    List.Forall₂ (Kept wanted) (front ++ back) ((p.remove s).1.statements wanted) := by
  have hmem : s ∈ p.statements wanted := by simp [h]
  cases s with
  | importing key specifiers =>
    obtain ⟨hmodule, item, hitem, hkey⟩ := importKey?_of_strays_eq_nil hp hmem
    change wanted key.source = true at hwanted
    have hq : (p.remove (.importing key specifiers)).1 = p.dropImports key := by
      rw [remove, if_pos hmodule]
    rw [hq, statements_dropImports hkeys hwanted h hitem hkey]
    exact List.forall₂_same.2 fun s _ => Kept.refl s
  | requiring key target =>
    obtain ⟨q, hdrop⟩ := dropRequire?_of_strays_eq_nil hp hmem
    obtain ⟨front', front'', target', back', hp, hq, htouched⟩ :=
      statements_of_dropRequire? hdrop hwanted
    obtain ⟨rfl, htarget, hback⟩ := statement_eq_of_keys_nodup hkeys h hp rfl
    cases htarget
    have hinside : target.statements wanted = [] := hs.1
    rw [hinside, List.nil_append] at hback
    subst hback
    simp only [remove, hdrop, statements_tidy, hq, List.map_append]
    refine List.rel_append ?_ ?_
    · exact List.forall₂_map_right_iff.2 (htouched.imp fun _ _ => Kept.of_touched)
    · exact List.forall₂_map_right_iff.2
        (List.forall₂_same.2 fun s _ => Kept.of_touched (.refl wanted s))

end Program
end ImportMacros
