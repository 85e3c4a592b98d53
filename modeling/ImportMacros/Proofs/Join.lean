import ImportMacros.Proofs.Normalize

/-!
# ImportMacros.Proofs.Join

Paths read one after the other. A relative path that is joined to another one adds its steps to the
components (`components_join_or`), so it leads on from the place that the other one leads to
(`destination_join`). That place can be read back from its normal form, so it makes no difference
where a path is cut before it is normalized (`normalize_composes`).

From a base without `..` everything stays at the root or below it (`Normalizes`).
-/

namespace ImportMacros
namespace Path

variable {p q : Path}

theorem splitSlashes_ne_nil (piece cs : List Char) : splitSlashes piece cs ≠ [] := by
  induction cs generalizing piece with
  | nil => simp [splitSlashes]
  | cons c rest ih =>
    rw [splitSlashes]
    split
    · simp
    · exact ih _

theorem pieces_ofText_ne_nil (text : String) : (ofText text).pieces ≠ [] :=
  splitSlashes_ne_nil [] text.toList

/-! ## Components of a join -/

theorem join_of_isAbsolute (p : Path) (h : q.isAbsolute = true) : p.join q = q := by
  rw [join, if_pos h]

/-- A path that ends in a slash, or is empty, has the components of the pieces before. -/
theorem components_of_getLast? {pieces : List String} (h : pieces.getLast? = some "") :
    components ⟨pieces⟩ = front pieces.dropLast := by
  obtain ⟨before, rfl⟩ := List.getLast?_eq_some_iff.1 h
  rw [components_append_empty, List.dropLast_concat]

theorem append_ne_singleton {front back : List String} (hfront : front ≠ []) (hback : back ≠ [])
    (piece : String) : front ++ back ≠ [piece] := by
  simp [List.append_eq_singleton_iff, hfront, hback]

/-- A relative path adds its steps to another one. To a path without pieces before the last slash
it adds its leading `.` as well. -/
theorem components_join_or (p : Path) (hq : q.isAbsolute = false) (hpieces : q.pieces ≠ []) :
    (p.join q).components = p.components ++ steps q.pieces ∨
      p.components = [] ∧ (p.join q).components = q.components := by
  obtain ⟨pieces⟩ := p
  obtain ⟨more⟩ := q
  rw [join, hq, if_neg Bool.false_ne_true]
  split
  · rename_i hlast
    rw [components_of_getLast? hlast]
    by_cases hbefore : pieces.dropLast = []
    · rw [hbefore]
      exact .inr ⟨rfl, rfl⟩
    · have hne := append_ne_singleton hbefore hpieces ""
      exact .inl ((components_eq_front hne).trans (front_append hbefore more))
  · rename_i hlast
    by_cases hnil : pieces = []
    · rw [hnil]
      exact .inr ⟨rfl, rfl⟩
    · have hempty : pieces ≠ [""] := by
        rintro rfl
        exact hlast rfl
      have hne := append_ne_singleton hnil hpieces ""
      rw [components_eq_front hne, components_eq_front hempty]
      exact .inl (front_append hnil more)

theorem isAbsolute_join (p : Path) (hq : q.isAbsolute = false) (hpieces : q.pieces ≠ []) :
    (p.join q).isAbsolute = p.isAbsolute := by
  rw [Bool.eq_iff_iff, isAbsolute_iff, isAbsolute_iff]
  rcases components_join_or p hq hpieces with h | ⟨hp, h⟩
  · rw [h]
    cases p.components with
    | nil => simpa using head?_steps_ne_root q.pieces
    | cons c rest => rfl
  · have hnot : q.components.head? ≠ some .root := by
      rw [ne_eq, ← isAbsolute_iff, hq]
      exact Bool.false_ne_true
    rw [h, hp]
    simpa using hnot

/-! ## Places -/

theorem walk_cur (place : List Component) : walk place .cur = place := rfl

/-- A relative path goes the way of its steps: its leading `.` leads nowhere else. -/
theorem foldl_walk_components (hq : q.isAbsolute = false) (place : List Component) :
    q.components.foldl walk place = (steps q.pieces).foldl walk place := by
  obtain ⟨pieces⟩ := q
  by_cases hempty : pieces = [""]
  · rw [hempty]
    rfl
  · rw [components_eq_front hempty]
    unfold front
    split
    · rename_i rest
      cases rest with
      | nil => exact absurd rfl hempty
      | cons piece rest => cases hq
    · rename_i rest
      rw [List.foldl_cons, walk_cur]
      rfl
    · rfl

/-- A relative path leads on from where the path before it leads. -/
theorem destination_join (base p : Path) (hq : q.isAbsolute = false) (hpieces : q.pieces ≠ []) :
    destination base (p.join q) = q.components.foldl walk (destination base p) := by
  rw [destination, isAbsolute_join p hq hpieces, destination]
  rcases components_join_or p hq hpieces with h | ⟨hp, h⟩
  · rw [h, List.foldl_append, foldl_walk_components hq]
  · rw [h, hp]
    rfl

theorem destination_of_isAbsolute (base other : Path) (h : p.isAbsolute = true) :
    destination base p = destination other p := by
  rw [destination, destination, if_pos h, if_pos h]

theorem destination_normalize (base p : Path) (hq : q.isAbsolute = false) :
    destination (normalize base p) q = q.components.foldl walk (destination base p) := by
  rw [destination, hq, if_neg Bool.false_ne_true, components_normalize, List.reverse_reverse]

/-- It makes no difference where a path is cut. -/
theorem normalize_join (base p : Path) (hpieces : q.pieces ≠ []) :
    normalize base (p.join q) = normalize (normalize base p) q := by
  have hplace : destination base (p.join q) = destination (normalize base p) q := by
    cases hq : q.isAbsolute with
    | true => rw [join_of_isAbsolute p hq, destination_of_isAbsolute base (normalize base p) hq]
    | false => rw [destination_join base p hq hpieces, destination_normalize base p hq]
  rw [normalize, hplace]
  rfl

/-! ## At the root or below it -/

theorem exists_names_of_not_up {pieces : List String} (h : .up ∉ steps pieces) :
    ∃ names : List String, (∀ name ∈ names, isName name = true) ∧
      steps pieces = names.map .name := by
  have hcomponent : ∀ piece ∈ pieces.filter isStep, component piece = .name piece := by
    intro piece hpiece
    rw [component, if_neg]
    intro hdots
    have hmem : component piece ∈ steps pieces := List.mem_map_of_mem hpiece
    rw [component, if_pos hdots] at hmem
    exact h hmem
  refine ⟨pieces.filter isStep, fun piece hpiece => ?_, List.map_congr_left hcomponent⟩
  have hname : .name piece ∈ steps pieces := by
    rw [← hcomponent piece hpiece]
    exact List.mem_map_of_mem hpiece
  exact isName_of_mem_steps hname

theorem plain_of_not_up (h : p.isAbsolute = true) (hup : .up ∉ p.components) :
    Plain p.components := by
  obtain ⟨pieces, heq⟩ := components_of_isAbsolute h
  rw [heq] at hup ⊢
  obtain ⟨names, hnames, hsteps⟩ :=
    exists_names_of_not_up fun hmem => hup (List.mem_cons_of_mem _ hmem)
  exact ⟨names, hnames, by rw [hsteps]⟩

/-- A path is normalized without leaving what is below the root. -/
structure Normalizes (base p : Path) : Prop where
  isAbsolute : (normalize base p).isAbsolute = true
  free : .cur ∉ (normalize base p).components ∧ .up ∉ (normalize base p).components
  /-- A further `..` leads to the directory above, and from the root to the root. -/
  up : (normalize base (p.join (ofText ".."))).same ((normalize base p).parent?.getD root) = true
  /-- The result is its own normal form, read from anywhere. -/
  fixed : ∀ other, normalize other (normalize base p) = normalize base p

theorem Plain.free {cs : List Component} (h : Plain cs) : .cur ∉ cs ∧ .up ∉ cs := by
  obtain ⟨names, -, rfl⟩ := h
  simp

theorem components_walk_up (h : Plain p.components) :
    (walk p.components.reverse .up).reverse = (p.parent?.getD root).components := by
  have hparents := components_parents p
  rcases h.eq_root_or_concat with heq | ⟨above, name, -, -, heq⟩
  · have hnone : p.parents = [] := by
      rw [heq] at hparents
      exact List.map_eq_nil_iff.1 hparents
    rw [parent?, hnone, heq]
    rfl
  · rw [heq, List.reverse_concat, Component.above_cons (by simp), List.reverse_reverse] at hparents
    obtain ⟨first, rest, hfirst, hcomponents, -⟩ := List.map_eq_cons_iff.1 hparents
    rw [parent?, hfirst, heq, List.reverse_concat]
    simpa [walk] using hcomponents.symm

theorem normalizes_of_plain {base : Path} (h : Plain base.components) (p : Path) :
    Normalizes base p := by
  have hplain : Plain (normalize base p).components := plain_normalize (.inl h)
  refine {
    isAbsolute := isAbsolute_of_plain hplain
    free := hplain.free
    up := ?_
    fixed := fun other => normalize_normalize_of_plain other hplain }
  have hup : (ofText "..").components = [.up] := by decide
  have hwalk := components_walk_up hplain
  rw [same, beq_iff_eq, normalize_join base p (pieces_ofText_ne_nil ".."), components_normalize,
    ← hwalk, destination, hup]
  rfl

/-- Normalizing can be cut anywhere, and from an absolute base without `..` it ends below the root,
for good. Every path that is spelled has a piece. -/
theorem normalize_composes (base p : Path) (text : String) :
    normalize base (p.join (ofText text)) = normalize (normalize base p) (ofText text) ∧
      (base.isAbsolute = true → .up ∉ base.components → Normalizes base p) := by
  refine ⟨normalize_join base p (pieces_ofText_ne_nil text), fun habsolute hup => ?_⟩
  exact normalizes_of_plain (plain_of_not_up habsolute hup) p

/-- The second half leads out of what the first half leads to, and stays at the root. -/
theorem normalize_composes_climbing :
    (ofText "/a/./b").isAbsolute = true ∧ .up ∉ (ofText "/a/./b").components ∧
      normalize (ofText "/a/./b") ((ofText "x//../..").join (ofText "./../../c/")) = ofText "/c" ∧
      Normalizes (ofText "/a/./b") (ofText "x//../..") := by
  have habsolute : (ofText "/a/./b").isAbsolute = true := by decide
  have hup : .up ∉ (ofText "/a/./b").components := by decide
  obtain ⟨hjoin, hnormalizes⟩ :=
    normalize_composes (ofText "/a/./b") (ofText "x//../..") "./../../c/"
  exact ⟨habsolute, hup, hjoin.trans (by decide), hnormalizes habsolute hup⟩

end Path
end ImportMacros
