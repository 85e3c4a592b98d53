import ImportMacros.Proofs.Drop

/-!
# ImportMacros.Proofs.Placement

Where statements stand. Removal reaches the imports among the items of a module and the `require`
calls in declarations of variables; `Tree.strays` are the statements that stand anywhere else.
Neither dropping a declarator nor tidying makes a stray, and without strays a declarator of every
`require` key that the finder sees can be dropped (`mem_strays_of_dropRequire?`).
-/

namespace ImportMacros

/-- Where a tree stands: as the list of a declaration of variables, as an item of that list, or
anywhere else. -/
inductive Spot where
  | declarators
  | declarator
  | elsewhere
deriving DecidableEq, Repr

namespace Spot

def item : Spot → Spot
  | .declarators => .declarator
  | _ => .elsewhere

def part (kind : Kind) (parts : List Tree) : Spot :=
  if kind = .variableDeclaration ∧ parts.length = 1 then .declarators else .elsewhere

theorem part_ne_declarator (kind : Kind) (parts : List Tree) : part kind parts ≠ .declarator := by
  unfold part
  split <;> exact nofun

theorem of_part_eq_declarators {kind : Kind} {parts : List Tree}
    (h : part kind parts = .declarators) :
    kind = .variableDeclaration ∧ ∃ list, parts = [list] := by
  by_cases hlist : kind = .variableDeclaration ∧ parts.length = 1
  · exact ⟨hlist.1, List.length_eq_one_iff.1 hlist.2⟩
  · rw [part, if_neg hlist] at h
    cases h

end Spot

namespace Tree

/-- The statement that a tree is by itself, if it cannot be removed from its spot. -/
def ownStray? (wanted : String → Bool) (spot : Spot) (t : Tree) : Option Statement :=
  if spot = .declarator ∧ t.requireKey?.isSome then none else ownStatement? wanted t

mutual

/-- The statements in a tree that stand where they cannot be removed. -/
def strays (wanted : String → Bool) (spot : Spot) : Tree → List Statement
  | .absent => []
  | .use _ => []
  | .binder _ ascription => strays wanted .elsewhere ascription
  | .seq items => straysAll wanted spot.item items
  | .node kind span data parts =>
    (ownStray? wanted spot (.node kind span data parts)).toList ++
      if kind = .importDeclaration then [] else straysAll wanted (.part kind parts) parts

def straysAll (wanted : String → Bool) (spot : Spot) : List Tree → List Statement
  | [] => []
  | t :: rest => strays wanted spot t ++ straysAll wanted spot rest

end

variable {wanted : String → Bool} {key : Key}

theorem straysAll_eq (spot : Spot) (ts : List Tree) :
    straysAll wanted spot ts = ts.flatMap (strays wanted spot) := by
  induction ts with
  | nil => rfl
  | cons t rest ih => simp [straysAll, ih]

theorem ownStray?_of_ne {kind : Kind} (h : kind ≠ .importDeclaration)
    (h' : kind ≠ .variableDeclarator) (spot : Spot) (span : Span) (data : Fields)
    (parts : List Tree) : ownStray? wanted spot (.node kind span data parts) = none := by
  rw [ownStray?, ownStatement?_of_ne wanted h h', ite_self]

theorem strays_node_of_ne {kind : Kind} (h : kind ≠ .importDeclaration) (spot : Spot)
    (span : Span) (data : Fields) (parts : List Tree) :
    strays wanted spot (.node kind span data parts) =
      (ownStray? wanted spot (.node kind span data parts)).toList ++
        parts.flatMap (strays wanted (.part kind parts)) := by
  rw [strays, if_neg h, straysAll_eq]

theorem reading_strays : Reading (strays wanted .elsewhere) where
  absent := rfl
  seq items := by rw [strays, straysAll_eq]; rfl
  emptied t h := by
    rcases eq_of_isEmptiedItem h with h | ⟨span, data, u, rfl, h⟩ <;>
      obtain ⟨span', data', rfl⟩ := eq_of_isEmptied h <;>
      simp [strays, straysAll, ownStray?_of_ne]
  emptyStatement := by simp [emptyStatement, strays, straysAll, ownStray?_of_ne]

theorem part_of_length (kind : Kind) {parts parts' : List Tree}
    (h : parts'.length = parts.length) : Spot.part kind parts' = Spot.part kind parts := by
  simp [Spot.part, h]

theorem ownStray?_of_requireKey? {spot : Spot} {kind : Kind} {span : Span} {data : Fields}
    {parts parts' : List Tree} (hkind : kind ≠ .importDeclaration)
    (hkey : (Tree.node kind span data parts').requireKey? =
      (Tree.node kind span data parts).requireKey?)
    (h : ownStray? wanted spot (.node kind span data parts) = none) :
    ownStray? wanted spot (.node kind span data parts') = none := by
  rw [ownStray?, hkey]
  rw [ownStray?] at h
  split at h
  · rename_i hspot
    rw [if_pos hspot]
  · rename_i hspot
    rw [if_neg hspot]
    cases hrequire : (Tree.node kind span data parts).requireKey? with
    | none => simp [ownStatement?, statement?, importKey?_of_ne hkind, hkey, hrequire]
    | some k =>
      rw [ownStatement?_of_requireKey? hrequire] at h
      rw [ownStatement?_of_requireKey? (hkey.trans hrequire)]
      split at h
      · cases h
      · rename_i hwanted
        rw [if_neg hwanted]

theorem Drops.strays {t u : Tree} (h : Drops key t u) {spot : Spot}
    (ht : Tree.strays wanted spot t = []) : Tree.strays wanted spot u = [] := by
  induction h generalizing spot with
  | declarator span data front back hd =>
    simp_all [Tree.strays, straysAll_eq, ownStray?_of_ne, Spot.part, Spot.item]
  | binder id _ ih => exact ih ht
  | seq front back _ ih =>
    simp only [Tree.strays, straysAll_eq, List.flatMap_append, List.flatMap_cons,
      List.append_eq_nil_iff] at ht ⊢
    exact ⟨ht.1, ih ht.2.1, ht.2.2⟩
  | @node t u kind span data front back hkind hdrops ih =>
    have hkey := requireKey?_of_sketch (Drops.node span data front back hkind hdrops).sketch
    have hlength : (front ++ u :: back).length = (front ++ t :: back).length := by simp
    rw [strays_node_of_ne hkind, part_of_length kind hlength]
    rw [strays_node_of_ne hkind] at ht
    simp only [List.flatMap_append, List.flatMap_cons, List.append_eq_nil_iff,
      Option.toList_eq_nil_iff] at ht ⊢
    exact ⟨ownStray?_of_requireKey? hkind hkey ht.1, ht.2.1, ih ht.2.2.1, ht.2.2.2⟩

theorem strays_tidy {t : Tree} {spot : Spot} (h : strays wanted spot t = []) :
    strays wanted spot (tidy t) = [] := by
  induction t generalizing spot with
  | absent => rfl
  | use id => rfl
  | binder id ascription ih => exact ih h
  | seq items ih =>
    simp only [tidy, strays, straysAll_eq, tidyAll_eq, List.flatMap_map,
      List.flatMap_eq_nil_iff] at h ⊢
    exact fun t ht => ih t ht (h t ht)
  | node kind span data parts ih =>
    by_cases hkind : kind = .importDeclaration
    · subst hkind
      rwa [tidy_import]
    · have hkey := requireKey?_of_sketch (sketch_tidy (.node kind span data parts))
      rw [tidy_node_of_ne hkind] at hkey ⊢
      rw [strays_node_of_ne hkind] at h ⊢
      simp only [List.append_eq_nil_iff, Option.toList_eq_nil_iff] at h ⊢
      refine ⟨ownStray?_of_requireKey? hkind hkey h.1, ?_⟩
      have hparts : ∀ t ∈ parts, strays wanted (.part kind parts) (tidy t) = [] :=
        fun t ht => ih t ht (List.flatMap_eq_nil_iff.1 h.2 t ht)
      by_cases hdeclaration : kind = .variableDeclaration
      · subst hdeclaration
        have hrigid : tidyParts .variableDeclaration (parts.map tidy) = parts.map tidy := rfl
        rw [hrigid, part_of_length _ (List.length_map _), List.flatMap_map]
        exact List.flatMap_eq_nil_iff.2 hparts
      · have helsewhere : ∀ ts, Spot.part kind ts = .elsewhere := by
          intro ts
          simp [Spot.part, hdeclaration]
        simp only [helsewhere] at hparts ⊢
        rw [reading_strays.tidyParts, List.flatMap_map]
        exact List.flatMap_eq_nil_iff.2 hparts

theorem requireKey?_of_mem_own {t target : Tree}
    (h : .requiring key target ∈ (ownStatement? wanted t).toList) :
    t.requireKey? = some key :=
  requireKey?_of_statement? (mem_ownStatement?.1 h).1

theorem requireKey?_of_dropDeclarator? {span : Span} {data : Fields} {list : Tree}
    (h : dropDeclarator? key (.node .variableDeclaration span data [list]) = none) :
    ∀ d ∈ list.items, d.requireKey? ≠ some key := by
  intro d hd
  cases list with
  | seq items =>
    have hnone := eraseFirst?_eq_none.1 (Option.map_eq_none_iff.1 h) d hd
    simpa [requires] using hnone
  | _ => cases hd

/-- If no declarator of a key can be dropped, all `require` statements of the key are strays. -/
theorem mem_strays_of_dropRequire? {t target : Tree} {spot : Spot} (h : dropRequire? key t = none)
    (hitem : spot = .declarator → t.requireKey? ≠ some key)
    (hlist : spot = .declarators → ∀ d ∈ t.items, d.requireKey? ≠ some key)
    (hs : .requiring key target ∈ statements wanted t) :
    .requiring key target ∈ strays wanted spot t := by
  induction t generalizing spot with
  | absent => cases hs
  | use id => cases hs
  | binder id ascription ih =>
    exact ih (Option.map_eq_none_iff.1 h) (by simp) (by simp) hs
  | seq items ih =>
    have hitems := dropRequireIn?_eq_none.1 (Option.map_eq_none_iff.1 h)
    simp only [statements, statementsAll_eq, List.mem_flatMap] at hs
    obtain ⟨d, hd, hs⟩ := hs
    simp only [strays, straysAll_eq, List.mem_flatMap]
    refine ⟨d, hd, ih d hd (hitems d hd) (fun hspot => ?_) (fun hspot => ?_) hs⟩
    · exact hlist (by cases spot <;> simp_all [Spot.item]) d hd
    · cases spot <;> cases hspot
  | node kind span data parts ih =>
    by_cases hkind : kind = .importDeclaration
    · subst hkind
      rw [statements, if_pos rfl, List.append_nil] at hs
      exact absurd (requireKey?_of_mem_own hs) (by simp [requireKey?])
    · rw [dropRequire?] at h
      split at h
      · cases h
      · rename_i hdeclarator
        rw [if_neg hkind, Option.map_eq_none_iff] at h
        have hparts := dropRequireIn?_eq_none.1 h
        rw [statements_node_of_ne wanted hkind] at hs
        rw [strays_node_of_ne hkind]
        rcases List.mem_append.1 hs with hs | hs
        · refine List.mem_append_left _ ?_
          have hkey := requireKey?_of_mem_own hs
          rw [ownStray?, if_neg fun hspot => hitem hspot.1 hkey]
          exact hs
        · obtain ⟨u, hu, hs⟩ := List.mem_flatMap.1 hs
          refine List.mem_append_right _ (List.mem_flatMap.2 ⟨u, hu, ?_⟩)
          refine ih u hu (hparts u hu) (fun hspot => ?_) (fun hspot => ?_) hs
          · exact absurd hspot (Spot.part_ne_declarator kind parts)
          · obtain ⟨rfl, list, rfl⟩ := Spot.of_part_eq_declarators hspot
            cases List.mem_singleton.1 hu
            exact requireKey?_of_dropDeclarator? hdeclarator

end Tree

def Program.strays (wanted : String → Bool) (p : Program) : List Statement :=
  p.body.flatMap fun item =>
    if p.isModule && item.importKey?.isSome then [] else item.strays wanted .elsewhere

end ImportMacros
