import Mathlib.Data.List.Basic
import Mathlib.Data.List.Induction
import ImportMacros.Proofs.Path

/-!
# ImportMacros.Proofs.Normalize

Normal forms. Wherever a walk ends, its steps are `Spelled`: they are the components of a path, so
they can be read back from their plain spelling (`components_ofComponents`), and these are the steps
of the normalized path (`components_normalize`).

`Plain` steps start at the root and go on by names. Whatever an absolute path spells, and whatever
path is read from a plain directory, the walk ends on plain steps (`plain_destination`). Normalizing
them once more changes nothing (`components_normalize_of_plain`).

The directories above plain steps are the plain steps before them (`mem_above_iff`).
-/

namespace ImportMacros
namespace Path

def isName (piece : String) : Bool := isStep piece && piece != ".."

/-- Absolute, and free of `.` and `..`. -/
def Plain (cs : List Component) : Prop :=
  ∃ names : List String, (∀ name ∈ names, isName name = true) ∧ cs = .root :: names.map .name

theorem plain_root : Plain [.root] := ⟨[], by simp, rfl⟩

theorem Plain.concat {cs : List Component} {name : String} (h : Plain cs)
    (hname : isName name = true) : Plain (cs ++ [.name name]) := by
  obtain ⟨names, hnames, rfl⟩ := h
  refine ⟨names ++ [name], ?_, by simp⟩
  intro n hn
  rcases List.mem_append.1 hn with hn | hn
  · exact hnames n hn
  · rw [List.mem_singleton.1 hn]
    exact hname

theorem Plain.eq_root_or_concat {cs : List Component} (h : Plain cs) :
    cs = [.root] ∨ ∃ front name, Plain front ∧ isName name = true ∧ cs = front ++ [.name name] := by
  obtain ⟨names, hnames, rfl⟩ := h
  rcases List.eq_nil_or_concat names with rfl | ⟨front, name, rfl⟩
  · exact .inl rfl
  · refine .inr ⟨.root :: front.map .name, name, ⟨front, ?_, rfl⟩, hnames name (by simp), by simp⟩
    intro n hn
    exact hnames n (by simp [hn])

/-! ## Walking -/

theorem isName_of_mem_steps {pieces : List String} {name : String}
    (h : .name name ∈ steps pieces) : isName name = true := by
  obtain ⟨piece, hpiece, heq⟩ := List.mem_map.1 h
  have hstep : isStep piece = true := (List.mem_filter.1 hpiece).2
  unfold component at heq
  split at heq
  · cases heq
  · rename_i hup
    cases heq
    simp [isName, hstep, hup]

theorem ne_root_of_mem_steps {pieces : List String} {c : Component} (h : c ∈ steps pieces) :
    c ≠ .root := by
  obtain ⟨piece, -, rfl⟩ := List.mem_map.1 h
  exact component_ne_root piece

theorem Plain.walk {place : List Component} {c : Component} (h : Plain place.reverse)
    (hroot : c ≠ .root) (hname : ∀ name, c = .name name → isName name = true) :
    Plain (Path.walk place c).reverse := by
  cases c with
  | root => exact absurd rfl hroot
  | cur => exact h
  | name name =>
    have hplain := h.concat (hname name rfl)
    simpa [Path.walk] using hplain
  | up =>
    rcases h.eq_root_or_concat with heq | ⟨front, name, hfront, -, heq⟩
    · have hplace : place = [.root] := by simpa using congrArg List.reverse heq
      subst hplace
      exact h
    · have hplace : place = .name name :: front.reverse := by
        simpa using congrArg List.reverse heq
      subst hplace
      simpa [Path.walk] using hfront

theorem Plain.foldl_walk {place cs : List Component} (h : Plain place.reverse)
    (hroot : ∀ c ∈ cs, c ≠ .root) (hname : ∀ name, .name name ∈ cs → isName name = true) :
    Plain (cs.foldl Path.walk place).reverse := by
  induction cs generalizing place with
  | nil => exact h
  | cons c rest ih =>
    have hstep : Plain (Path.walk place c).reverse := by
      refine h.walk (hroot c (by simp)) ?_
      intro name hc
      exact hname name (by simp [hc])
    refine ih hstep ?_ ?_
    · intro c' hc'
      exact hroot c' (by simp [hc'])
    · intro name hmem
      exact hname name (by simp [hmem])

/-- Only the first component of a path can be a root. -/
theorem exists_components (p : Path) :
    ∃ rest, p.components = .root :: steps rest ∨ p.components = .cur :: steps rest ∨
      p.components = steps rest := by
  unfold components
  split
  · exact ⟨_, .inl rfl⟩
  · exact ⟨_, .inr (.inl rfl)⟩
  · exact ⟨_, .inr (.inr rfl)⟩

theorem components_of_isAbsolute {p : Path} (h : p.isAbsolute = true) :
    ∃ rest, p.components = .root :: steps rest := by
  rw [isAbsolute_iff] at h
  obtain ⟨rest, heq | heq | heq⟩ := exists_components p
  · exact ⟨rest, heq⟩
  · simp [heq] at h
  · rw [heq] at h
    exact absurd h (head?_steps_ne_root rest)

theorem components_of_not_isAbsolute {p : Path} (h : p.isAbsolute = false) :
    ∃ rest, p.components = .cur :: steps rest ∨ p.components = steps rest := by
  obtain ⟨rest, heq | heq⟩ := exists_components p
  · have habsolute := (isAbsolute_iff p).2 (by rw [heq]; rfl)
    rw [h] at habsolute
    cases habsolute
  · exact ⟨rest, heq⟩

/-- An absolute path, and any path read from a plain directory, leads to a plain place. -/
theorem plain_destination {base path : Path}
    (h : Plain base.components ∨ path.isAbsolute = true) :
    Plain (destination base path).reverse := by
  have hsteps : ∀ place rest, Plain place.reverse → Plain ((steps rest).foldl walk place).reverse :=
    fun place rest hplace => hplace.foldl_walk (fun _ => ne_root_of_mem_steps)
      (fun _ => isName_of_mem_steps)
  rw [destination]
  cases habsolute : path.isAbsolute with
  | true =>
    obtain ⟨rest, heq⟩ := components_of_isAbsolute habsolute
    rw [heq, if_pos rfl]
    exact hsteps [.root] rest plain_root
  | false =>
    have hbase : Plain base.components.reverse.reverse := by
      rw [List.reverse_reverse]
      exact h.resolve_right (by simp [habsolute])
    obtain ⟨rest, heq | heq⟩ := components_of_not_isAbsolute habsolute
    · rw [heq, if_neg (by simp)]
      exact hsteps _ rest hbase
    · rw [heq, if_neg (by simp)]
      exact hsteps _ rest hbase

/-! ## Spelling -/

/-- The components of some path: steps after the root, after a `.` or after nothing. -/
def Spelled (cs : List Component) : Prop :=
  ∃ (lead : List Component) (pieces : List String),
    (lead = [] ∨ lead = [.root] ∨ lead = [.cur]) ∧ (∀ piece ∈ pieces, isStep piece = true) ∧
      cs = lead ++ pieces.map component

theorem spelled_nil : Spelled [] := ⟨[], [], .inl rfl, by simp, rfl⟩

theorem steps_of_forall {pieces : List String} (h : ∀ piece ∈ pieces, isStep piece = true) :
    steps pieces = pieces.map component := by
  rw [steps, List.filter_eq_self.2 h]

theorem spelled_append_steps {lead : List Component}
    (h : lead = [] ∨ lead = [.root] ∨ lead = [.cur]) (pieces : List String) :
    Spelled (lead ++ steps pieces) :=
  ⟨lead, pieces.filter isStep, h, fun _ hpiece => (List.mem_filter.1 hpiece).2, rfl⟩

theorem Plain.spelled {cs : List Component} (h : Plain cs) : Spelled cs := by
  obtain ⟨names, hnames, rfl⟩ := h
  refine ⟨[.root], names, .inr (.inl rfl), ?_, ?_⟩
  · intro name hname
    exact (Bool.and_eq_true_iff.1 (hnames name hname)).1
  · refine congrArg (Component.root :: ·) (List.map_congr_left fun name hname => ?_)
    have hup := (Bool.and_eq_true_iff.1 (hnames name hname)).2
    rw [component, if_neg (bne_iff_ne.1 hup)]

theorem spelled_components (p : Path) : Spelled p.components := by
  obtain ⟨rest, h | h | h⟩ := exists_components p
  · rw [h]
    exact spelled_append_steps (.inr (.inl rfl)) rest
  · rw [h]
    exact spelled_append_steps (.inr (.inr rfl)) rest
  · rw [h]
    exact spelled_append_steps (.inl rfl) rest

theorem Spelled.concat {cs : List Component} {piece : String} (h : Spelled cs)
    (hpiece : isStep piece = true) : Spelled (cs ++ [component piece]) := by
  obtain ⟨lead, pieces, hlead, hpieces, rfl⟩ := h
  refine ⟨lead, pieces ++ [piece], hlead, ?_, by simp⟩
  intro piece' hmem
  rcases List.mem_append.1 hmem with hmem | hmem
  · exact hpieces piece' hmem
  · rw [List.mem_singleton.1 hmem]
    exact hpiece

theorem Spelled.of_concat {cs : List Component} {c : Component} (h : Spelled (cs ++ [c])) :
    Spelled cs := by
  obtain ⟨lead, pieces, hlead, hpieces, heq⟩ := h
  rcases List.eq_nil_or_concat' pieces with rfl | ⟨front, piece, rfl⟩
  · have hlead' : lead.length ≤ 1 := by rcases hlead with rfl | rfl | rfl <;> simp
    have hlength : cs.length + 1 = lead.length := by simpa using congrArg List.length heq
    rw [List.eq_nil_of_length_eq_zero (by omega : cs.length = 0)]
    exact spelled_nil
  · rw [List.map_append, ← List.append_assoc, List.map_singleton] at heq
    refine ⟨lead, front, hlead, fun piece' hmem => hpieces piece' (by simp [hmem]), ?_⟩
    exact (List.append_inj' heq rfl).1

theorem Spelled.walk {place : List Component} {piece : String} (h : Spelled place.reverse)
    (hpiece : isStep piece = true) : Spelled (Path.walk place (component piece)).reverse := by
  have hconcat := h.concat hpiece
  unfold component at hconcat ⊢
  split
  · cases place with
    | nil => exact spelled_nil
    | cons c above =>
      rw [List.reverse_cons] at h
      cases c with
      | root => simpa [Path.walk] using h
      | _ => exact h.of_concat
  · rename_i hname
    rw [if_neg hname] at hconcat
    simpa [Path.walk] using hconcat

theorem Spelled.foldl_walk {place : List Component} (h : Spelled place.reverse)
    (pieces : List String) : Spelled ((steps pieces).foldl Path.walk place).reverse := by
  induction pieces generalizing place with
  | nil => exact h
  | cons piece rest ih =>
    rw [← List.singleton_append, steps_append, List.foldl_append]
    cases hpiece : isStep piece with
    | true =>
      rw [steps_of_isStep hpiece]
      exact ih (h.walk hpiece)
    | false =>
      rw [steps_of_not_isStep hpiece]
      exact ih h

theorem spelled_destination (base path : Path) : Spelled (destination base path).reverse := by
  rw [destination]
  cases habsolute : path.isAbsolute with
  | true =>
    obtain ⟨rest, heq⟩ := components_of_isAbsolute habsolute
    have hroot : Spelled [Component.root].reverse := spelled_components root
    rw [heq, if_pos rfl]
    exact hroot.foldl_walk rest
  | false =>
    have hbase : Spelled base.components.reverse.reverse := by
      rw [List.reverse_reverse]
      exact spelled_components base
    obtain ⟨rest, heq | heq⟩ := components_of_not_isAbsolute habsolute
    · rw [heq, if_neg (by simp)]
      exact hbase.foldl_walk rest
    · rw [heq, if_neg (by simp)]
      exact hbase.foldl_walk rest

theorem piece_component (piece : String) : (component piece).piece = piece := by
  unfold component
  split
  · rename_i hup
    exact hup.symm
  · rfl

theorem map_piece_component (pieces : List String) :
    (pieces.map component).map Component.piece = pieces := by
  rw [List.map_map]
  exact (List.map_congr_left fun piece _ => piece_component piece).trans (List.map_id pieces)

/-- The steps of a path can be read back from their plain spelling. -/
theorem components_ofComponents {cs : List Component} (h : Spelled cs) :
    (ofComponents cs).components = cs := by
  obtain ⟨lead, pieces, hlead, hpieces, rfl⟩ := h
  have hsteps := steps_of_forall hpieces
  have hspelled := map_piece_component pieces
  rcases hlead with rfl | rfl | rfl
  · cases pieces with
    | nil => rfl
    | cons piece rest =>
      have hpiece := hpieces piece (by simp)
      have hne : piece :: rest ≠ [""] := by
        intro heq
        cases heq
        cases hpiece
      have hpath : ofComponents ([] ++ (piece :: rest).map component) = ⟨piece :: rest⟩ := by
        rw [ofComponents, List.nil_append, hspelled]
        · simp
        · intro heq
          exact component_ne_root piece (List.cons.inj heq).1
      rw [hpath, components_eq_front hne, front_of_isStep hpiece, hsteps, List.nil_append]
  · cases pieces with
    | nil => rfl
    | cons piece rest =>
      have hpath : ofComponents ([.root] ++ (piece :: rest).map component) =
          ⟨"" :: piece :: rest⟩ := congrArg (fun pieces => (⟨"" :: pieces⟩ : Path)) hspelled
      rw [hpath, components_eq_front (by simp), front, hsteps]
      rfl
  · have hpath : ofComponents ([.cur] ++ pieces.map component) = ⟨"." :: pieces⟩ :=
      congrArg (fun pieces => (⟨"." :: pieces⟩ : Path)) hspelled
    rw [hpath, components_eq_front (by simp), front, hsteps]
    rfl

theorem components_normalize (base path : Path) :
    (normalize base path).components = (destination base path).reverse :=
  components_ofComponents (spelled_destination base path)

theorem plain_normalize {base path : Path}
    (h : Plain base.components ∨ path.isAbsolute = true) :
    Plain (normalize base path).components := by
  rw [components_normalize]
  exact plain_destination h

theorem isAbsolute_of_plain {p : Path} (h : Plain p.components) : p.isAbsolute = true := by
  obtain ⟨names, -, heq⟩ := h
  rw [isAbsolute_iff, heq]
  rfl

theorem foldl_walk_names (place : List Component) (names : List String) :
    (names.map Component.name).foldl walk place = (names.map Component.name).reverse ++ place := by
  induction names generalizing place with
  | nil => rfl
  | cons name rest ih => simp [walk, ih]

theorem components_normalize_of_plain (base : Path) {path : Path} (h : Plain path.components) :
    (normalize base path).components = path.components := by
  have habsolute := isAbsolute_of_plain h
  obtain ⟨names, -, heq⟩ := h
  rw [components_normalize, destination, heq, if_pos habsolute, List.foldl_cons,
    foldl_walk_names]
  simp [walk]

/-- What has been normalized to plain steps is its own normal form, read from anywhere. -/
theorem normalize_normalize_of_plain (other : Path) {base path : Path}
    (h : Plain (normalize base path).components) :
    normalize other (normalize base path) = normalize base path := by
  have hdestination : destination other (normalize base path) = destination base path := by
    have hsame := components_normalize_of_plain other h
    rw [components_normalize other, components_normalize base] at hsame
    exact List.reverse_inj.1 hsame
  rw [normalize, hdestination]
  rfl

/-! ## Directories above -/

theorem Plain.ne_nil {cs : List Component} (h : Plain cs) : cs ≠ [] := by
  obtain ⟨names, -, rfl⟩ := h
  simp

/-- The places above a plain place are the plain places that it starts with. -/
theorem mem_above_iff {cs place : List Component} (h : Plain cs) :
    place ∈ Component.above cs.reverse ↔ Plain place ∧ place <+: cs ∧ place ≠ cs := by
  obtain ⟨names, hnames, rfl⟩ := h
  induction names using List.reverseRecOn with
  | nil =>
    have hnone : Component.above [Component.root] = [] := rfl
    simp only [List.map_nil, List.reverse_singleton, hnone, List.not_mem_nil, false_iff, not_and,
      not_not]
    intro hplain hprefix
    rcases List.prefix_cons_iff.1 hprefix with hnil | ⟨rest, hrest, hnil⟩
    · exact absurd hnil hplain.ne_nil
    · rw [hrest, List.prefix_nil.1 hnil]
  | append_singleton front name ih =>
    have hfront := ih fun n hn => hnames n (by simp [hn])
    have hplain : Plain (.root :: front.map .name) :=
      ⟨front, fun n hn => hnames n (by simp [hn]), rfl⟩
    have habove : Component.above (.root :: (front ++ [name]).map .name).reverse =
        (.root :: front.map .name) :: Component.above (.root :: front.map .name).reverse := by
      rw [List.map_append, ← List.cons_append, List.map_singleton, List.reverse_concat,
        Component.above_cons (by simp), List.reverse_reverse]
    rw [habove, List.mem_cons, hfront, List.map_append, ← List.cons_append, List.map_singleton,
      List.prefix_concat_iff]
    constructor
    · rintro (rfl | ⟨hplace, hprefix, -⟩)
      · exact ⟨hplain, .inr (List.prefix_refl _), by simp⟩
      · refine ⟨hplace, .inr hprefix, ?_⟩
        intro heq
        have hlength := hprefix.length_le
        simp only [heq, List.length_append, List.length_singleton] at hlength
        omega
    · rintro ⟨hplace, heq | hprefix, hne⟩
      · exact absurd heq hne
      · by_cases heq : place = .root :: front.map .name
        · exact .inl heq
        · exact .inr ⟨hplace, hprefix, heq⟩

end Path
end ImportMacros
