import ImportMacros.Path

/-!
# ImportMacros.Proofs.Path

What the components of a path determine. Joining a plain name adds one component
(`components_join`), and the directories above a path are, by their components, those above its
components (`components_parents`); so two spellings of one path have the same files in them and
the same directories above them.
-/

namespace ImportMacros

/-- The places above a place, nearest first; the place is given last step first. -/
def Component.above : List Component → List (List Component)
  | [] => []
  | .root :: _ => []
  | _ :: rest => rest.reverse :: above rest

theorem Component.above_cons {c : Component} (h : c ≠ .root) (rest : List Component) :
    above (c :: rest) = rest.reverse :: above rest := by
  cases c with
  | root => exact absurd rfl h
  | _ => rfl

theorem Component.above_of_above_eq_cons {cs : List Component} {next : List Component}
    {more : List (List Component)} (h : above cs = next :: more) : more = above next.reverse := by
  unfold above at h
  split at h
  · cases h
  · cases h
  · cases h
    rw [List.reverse_reverse]

namespace Path

theorem steps_append (xs ys : List String) : steps (xs ++ ys) = steps xs ++ steps ys := by
  simp [steps]

theorem steps_of_isStep {piece : String} (h : isStep piece = true) :
    steps [piece] = [component piece] := by
  simp [steps, h]

theorem steps_of_not_isStep {piece : String} (h : isStep piece = false) : steps [piece] = [] := by
  simp [steps, h]

theorem component_ne_root (piece : String) : component piece ≠ .root := by
  unfold component
  split <;> exact nofun

def front : List String → List Component
  | "" :: rest => .root :: steps rest
  | "." :: rest => .cur :: steps rest
  | rest => steps rest

theorem front_of_isStep {piece : String} (h : isStep piece = true) (rest : List String) :
    front (piece :: rest) = steps (piece :: rest) := by
  unfold front
  split
  · rename_i heq
    cases heq
    cases h
  · rename_i heq
    cases heq
    cases h
  · rfl

theorem front_append {pieces : List String} (h : pieces ≠ []) (more : List String) :
    front (pieces ++ more) = front pieces ++ steps more := by
  obtain ⟨first, rest, rfl⟩ := List.exists_cons_of_ne_nil h
  rw [List.cons_append]
  unfold front
  split
  · rename_i heq
    cases heq
    simp [steps_append]
  · rename_i heq
    cases heq
    simp [steps_append]
  · rename_i hroot hcur
    split
    · rename_i heq
      cases heq
      exact absurd rfl (hroot _)
    · rename_i heq
      cases heq
      exact absurd rfl (hcur _)
    · rw [← List.cons_append, steps_append]

/-- The path of one empty piece is not the root. -/
theorem components_eq_front {pieces : List String} (h : pieces ≠ [""]) :
    components ⟨pieces⟩ = front pieces := by
  rcases pieces with _ | ⟨first, rest⟩
  · rfl
  by_cases hroot : first = ""
  · subst hroot
    rcases rest with _ | ⟨second, rest⟩
    · exact absurd rfl h
    · rfl
  by_cases hcur : first = "."
  · subst hcur
    rfl
  have hsplit : split ⟨first :: rest⟩ = ([], first :: rest) := by
    unfold split
    simp [hroot, hcur]
  have hfront : front (first :: rest) = steps (first :: rest) := by
    unfold front
    simp [hroot, hcur]
  rw [components, hsplit, hfront]

theorem components_append_empty (pieces : List String) :
    components ⟨pieces ++ [""]⟩ = front pieces := by
  by_cases h : pieces = []
  · rw [h]; rfl
  · rw [components_eq_front (by simpa using h), front_append h,
      steps_of_not_isStep rfl, List.append_nil]

theorem components_append_step (pieces : List String) {piece : String} (h : isStep piece = true) :
    components ⟨pieces ++ [piece]⟩ = front pieces ++ [component piece] := by
  have hpiece : piece ≠ "" := by
    rintro rfl
    cases h
  by_cases hnil : pieces = []
  · rw [hnil, List.nil_append, components_eq_front (by simpa using hpiece), front_of_isStep h,
      steps_of_isStep h]
    rfl
  · have hne : pieces ++ [piece] ≠ [""] := by
      intro heq
      have hlast := congrArg List.getLast? heq
      rw [List.getLast?_concat] at hlast
      exact hpiece (Option.some.inj hlast)
    rw [components_eq_front hne, front_append hnil, steps_of_isStep h]

theorem components_join (p : Path) {name : String} (h : isStep name = true) :
    (p.join ⟨[name]⟩).components = p.components ++ [component name] := by
  obtain ⟨pieces⟩ := p
  rw [join, if_neg (by simp [isAbsolute])]
  split
  · rename_i hlast
    obtain ⟨above, rfl⟩ := List.getLast?_eq_some_iff.1 hlast
    simp only [List.dropLast_concat]
    rw [components_append_step above h, components_append_empty]
  · rename_i hlast
    have hne : pieces ≠ [""] := by
      rintro rfl
      exact hlast rfl
    rw [components_append_step pieces h, components_eq_front hne]

/-! ## Directories above -/

theorem steps_dropWhile (rest : List String) :
    steps (rest.dropWhile (!isStep ·)).reverse = steps rest.reverse := by
  induction rest with
  | nil => rfl
  | cons piece rest ih =>
    cases h : isStep piece with
    | true => simp [h]
    | false =>
      rw [List.dropWhile_cons_of_pos (by simp [h]), ih, List.reverse_cons, steps_append,
        steps_of_not_isStep h, List.append_nil]

/-- The pieces after a path's special first piece: if there is none, a step comes first. -/
def Follows (lead rest : List String) : Prop :=
  lead = [""] ∨ lead = ["."] ∨ lead = [] ∧ ∀ piece, rest.head? = some piece → isStep piece = true

theorem front_of_follows {lead rest : List String} (h : Follows lead rest) :
    front (lead ++ rest) = front lead ++ steps rest := by
  rcases h with rfl | rfl | ⟨rfl, h⟩
  · exact front_append (by simp) rest
  · exact front_append (by simp) rest
  · cases rest with
    | nil => rfl
    | cons piece rest => exact front_of_isStep (h piece rfl) rest

theorem Follows.of_append {lead rest more : List String} (h : Follows lead (rest ++ more)) :
    Follows lead rest := by
  rcases h with h | h | ⟨hlead, h⟩
  · exact .inl h
  · exact .inr (.inl h)
  · refine .inr (.inr ⟨hlead, fun piece hpiece => h piece ?_⟩)
    rw [List.head?_append, hpiece, Option.some_or]

theorem follows_split {p : Path} (h : p.pieces ≠ [""]) : Follows p.split.1 p.split.2 := by
  unfold split
  split
  · exact .inl rfl
  · exact .inr (.inl rfl)
  · rename_i hroot hcur
    refine .inr (.inr ⟨rfl, fun piece hpiece => ?_⟩)
    obtain ⟨rest, hrest⟩ := List.head?_eq_some_iff.1 hpiece
    have hempty : piece ≠ "" := by
      rintro rfl
      rcases rest with _ | ⟨second, rest⟩
      · exact h hrest
      · exact hroot second rest hrest
    have hdot : piece ≠ "." := by
      rintro rfl
      exact hcur rest hrest
    simp [isStep, hempty, hdot]

theorem components_assemble {lead rest : List String} (h : Follows lead rest.reverse) :
    (assemble lead rest).components = front lead ++ steps rest.reverse := by
  have hfollows : Follows lead (rest.dropWhile (!isStep ·)).reverse := by
    have hcut := List.takeWhile_append_dropWhile (p := (!isStep ·)) (l := rest)
    rw [← hcut, List.reverse_append] at h
    exact h.of_append
  rw [← steps_dropWhile, ← front_of_follows hfollows, assemble]
  split
  · rename_i heq
    rw [heq]; rfl
  · rename_i heq
    rw [heq]; rfl
  · rename_i hempty
    exact components_eq_front hempty

theorem components_above {lead rest : List String} (h : Follows lead rest.reverse) :
    (above lead rest).map components =
      Component.above (front lead ++ steps rest.reverse).reverse := by
  induction rest with
  | nil => rcases h with rfl | rfl | ⟨rfl, -⟩ <;> rfl
  | cons piece rest ih =>
    rw [List.reverse_cons] at h
    have hrest := h.of_append
    rw [above, List.reverse_cons, steps_append]
    cases hstep : isStep piece with
    | true =>
      rw [if_pos rfl, List.map_cons, ih hrest, components_assemble hrest, steps_of_isStep hstep,
        ← List.append_assoc, List.reverse_concat, Component.above_cons (component_ne_root piece),
        List.reverse_reverse]
    | false =>
      rw [if_neg Bool.false_ne_true, ih hrest, steps_of_not_isStep hstep, List.append_nil]

theorem components_eq_front_split {p : Path} (h : p.pieces ≠ [""]) :
    p.components = front p.split.1 ++ steps p.split.2 := by
  have happend : p.split.1 ++ p.split.2 = p.pieces := by
    unfold split
    split <;> simp [*]
  rw [← front_of_follows (follows_split h), happend]
  exact components_eq_front h

/-- The directories above a path are told by its components. -/
theorem components_parents (p : Path) :
    p.parents.map components = Component.above p.components.reverse := by
  by_cases h : p.pieces = [""]
  · obtain ⟨pieces⟩ := p
    cases h
    rfl
  · have hfollows := follows_split h
    rw [← List.reverse_reverse p.split.2] at hfollows
    rw [parents, components_above hfollows, List.reverse_reverse, components_eq_front_split h]

theorem head?_steps_ne_root (pieces : List String) : (steps pieces).head? ≠ some .root := by
  intro h
  obtain ⟨piece, -, hpiece⟩ := List.mem_map.1 (List.mem_of_head? h)
  exact component_ne_root piece hpiece

theorem isAbsolute_iff_split (p : Path) : p.isAbsolute = true ↔ p.split.1 = [""] := by
  unfold isAbsolute split
  split
  · rename_i heq
    rw [heq]
    simp
  · rename_i hroot
    split
    · rename_i heq
      exact absurd heq (hroot _ _)
    · simp
    · simp

theorem isAbsolute_iff (p : Path) : p.isAbsolute = true ↔ p.components.head? = some .root := by
  by_cases h : p.pieces = [""]
  · obtain ⟨pieces⟩ := p
    cases h
    simp [isAbsolute, components, split, steps, isStep]
  · rw [isAbsolute_iff_split, components_eq_front_split h]
    rcases follows_split h with hlead | hlead | ⟨hlead, -⟩
    · simp [hlead, front]
    · simp [hlead, front]
    · have hfront : front [] = [] := rfl
      simpa [hlead, hfront] using head?_steps_ne_root p.split.2

theorem isAbsolute_congr {p q : Path} (h : p.components = q.components) :
    p.isAbsolute = q.isAbsolute := by
  rw [Bool.eq_iff_iff, isAbsolute_iff, isAbsolute_iff, h]

theorem normalize_congr (base : Path) {p q : Path} (h : p.components = q.components) :
    normalize base p = normalize base q := by
  rw [normalize, normalize, destination, destination, h, isAbsolute_congr h]

end Path
end ImportMacros
