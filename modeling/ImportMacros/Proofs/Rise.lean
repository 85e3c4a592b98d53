import ImportMacros.Proofs.Join

/-!
# ImportMacros.Proofs.Rise

What a path that is read from a base makes of the base. A walk leaves as many of the steps that it
starts from as it rises above its start, and goes on by names (`foldl_walk_append`). The other steps
are `kept` as they are, and a `..` among them stays in the result.

A join is normalized from the root, the steps of the base included. So both come to the same just if
the base has no `..` or nothing but the root is kept of it (`normalize_kept_iff`).
-/

namespace ImportMacros
namespace Path

/-- How many steps a walk leaves of those that it starts from. -/
def rise : List Component → Nat
  | [] => 0
  | .up :: rest => rise rest + 1
  | .name _ :: rest => rise rest - 1
  | _ :: rest => rise rest

/-- The steps of a base that a path leaves as they are. -/
def kept (base path : Path) : List Component :=
  if path.isAbsolute then []
  else base.components.take (base.components.length - rise path.components)

/-! ## What a walk leaves -/

/-- A walk, which does not lead below the root that it may have started from. -/
theorem foldl_walk_append {cs before floor : List Component}
    (hfloor : floor = [] ∨ floor = [.root]) (hcs : ∀ c ∈ cs, c ≠ .root)
    (hbefore : ∀ c ∈ before, c ≠ .root) :
    cs.foldl walk (before ++ floor) = cs.foldl walk [] ++ before.drop (rise cs) ++ floor := by
  induction cs generalizing before floor with
  | nil => simp [rise]
  | cons c rest ih =>
    have hrest : ∀ c' ∈ rest, c' ≠ .root := fun c' hc' => hcs c' (by simp [hc'])
    rw [List.foldl_cons, List.foldl_cons]
    cases c with
    | root => exact absurd rfl (hcs .root (by simp))
    | cur => exact ih hfloor hrest hbefore
    | up =>
      cases before with
      | nil =>
        have hstay : walk ([] ++ floor) .up = [] ++ floor := by
          rcases hfloor with rfl | rfl <;> rfl
        have hnone := ih hfloor hrest hbefore
        rw [hstay, hnone, List.drop_nil, List.drop_nil]
        rfl
      | cons last above =>
        have hleave : walk (last :: above ++ floor) .up = above ++ floor := by
          cases last with
          | root => exact absurd rfl (hbefore .root (by simp))
          | _ => rfl
        rw [hleave, ih hfloor hrest fun c' hc' => hbefore c' (by simp [hc'])]
        rfl
    | name name =>
      have hname : ∀ c' ∈ Component.name name :: before, c' ≠ .root := by
        intro c' hc'
        rcases List.mem_cons.1 hc' with rfl | hc'
        · exact nofun
        · exact hbefore c' hc'
      have hname' : ∀ c' ∈ [Component.name name], c' ≠ .root := by simp
      have hone := ih (.inl rfl) hrest hname'
      rw [List.append_nil, List.append_nil] at hone
      have hall := ih hfloor hrest hname
      simp only [walk] at hall ⊢
      rw [← List.cons_append, hall, hone, List.append_assoc _ _ (before.drop _)]
      congr 2
      cases hrise : rise rest <;> simp [rise, hrise]

/-- Every `..` makes a walk end nearer to its start than it could. -/
theorem length_foldl_walk_add_count (place cs : List Component) :
    (cs.foldl walk place).length + cs.count .up ≤ place.length + cs.length := by
  induction cs generalizing place with
  | nil => simp
  | cons c rest ih =>
    have hrest := ih (walk place c)
    have hstep : (walk place c).length + [c].count .up ≤ place.length + 1 := by
      cases c with
      | up => rcases place with _ | ⟨_ | _, above⟩ <;> simp [walk]
      | _ => simp [walk]
    rw [List.foldl_cons, List.length_cons, ← List.singleton_append, List.count_append]
    omega

theorem mem_foldl_walk {place cs : List Component} {c : Component} (h : c ∈ cs.foldl walk place) :
    c ∈ place ∨ c ∈ cs ∧ c ≠ .cur ∧ c ≠ .up := by
  induction cs generalizing place with
  | nil => exact .inl h
  | cons first rest ih =>
    rcases ih h with hplace | ⟨hrest, hne⟩
    · cases first with
      | cur => exact .inl hplace
      | up =>
        rcases place with _ | ⟨_ | _, above⟩ <;> simp_all [walk]
      | _ =>
        rcases List.mem_cons.1 hplace with rfl | hplace
        · exact .inr ⟨by simp, by simp⟩
        · exact .inl hplace
    · exact .inr ⟨List.mem_cons_of_mem _ hrest, hne⟩

/-! ## From an absolute base -/

section Base

variable {base path : Path} {rest : List String}

theorem ne_root_of_not_isAbsolute (h : path.isAbsolute = false) :
    ∀ c ∈ path.components, c ≠ .root := by
  intro c hc
  obtain ⟨pieces, heq | heq⟩ := components_of_not_isAbsolute h
  · rw [heq] at hc
    rcases List.mem_cons.1 hc with rfl | hc
    · exact nofun
    · exact ne_root_of_mem_steps hc
  · rw [heq] at hc
    exact ne_root_of_mem_steps hc

/-- A relative path leaves the last steps of the base, and adds names. -/
theorem destination_of_base (hbase : base.components = .root :: steps rest)
    (hpath : path.isAbsolute = false) :
    destination base path = path.components.foldl walk [] ++
      (steps rest).reverse.drop (rise path.components) ++ [.root] := by
  have hbefore : ∀ c ∈ (steps rest).reverse, c ≠ .root :=
    fun c hc => ne_root_of_mem_steps (List.mem_reverse.1 hc)
  rw [destination, hpath, if_neg Bool.false_ne_true, hbase, List.reverse_cons]
  exact foldl_walk_append (.inr rfl) (ne_root_of_not_isAbsolute hpath) hbefore

theorem destination_root_join (hbase : base.components = .root :: steps rest)
    (hpath : path.isAbsolute = false) (hpieces : path.pieces ≠ []) :
    destination root (base.join path) = path.components.foldl walk [] ++
      ((steps rest).foldl walk []).drop (rise path.components) ++ [.root] := by
  have habsolute : base.isAbsolute = true := (isAbsolute_iff base).2 (by rw [hbase]; rfl)
  have hnone : ∀ c ∈ ([] : List Component), c ≠ .root := by simp
  have hwalk : destination root base = (steps rest).foldl walk [] ++ [.root] := by
    have happend : (steps rest).foldl walk ([] ++ [.root]) =
        (steps rest).foldl walk [] ++ [].drop (rise (steps rest)) ++ [.root] :=
      foldl_walk_append (.inr rfl) (fun _ => ne_root_of_mem_steps) hnone
    rw [List.drop_nil, List.append_nil, List.nil_append] at happend
    rw [destination, if_pos habsolute, hbase, List.foldl_cons, ← happend]
    rfl
  have hbefore : ∀ c ∈ (steps rest).foldl walk [], c ≠ .root := by
    intro c hc
    rcases mem_foldl_walk hc with hc | ⟨hc, -⟩
    · cases hc
    · exact ne_root_of_mem_steps hc
  rw [destination_join root base hpath hpieces, hwalk]
  exact foldl_walk_append (.inr rfl) (ne_root_of_not_isAbsolute hpath) hbefore

theorem foldl_walk_of_not_up (hup : .up ∉ steps rest) :
    (steps rest).foldl walk [] = (steps rest).reverse := by
  obtain ⟨names, -, heq⟩ := exists_names_of_not_up hup
  rw [heq, foldl_walk_names, List.append_nil]

/-- The first steps of the base are those that walking the base comes to just if no `..` is among
its steps, or there are no first steps. -/
theorem drop_reverse_eq_iff (rest : List String) (count : Nat) :
    (steps rest).reverse.drop count = ((steps rest).foldl walk []).drop count ↔
      .up ∉ steps rest ∨ (steps rest).length ≤ count := by
  have hlength := length_foldl_walk_add_count [] (steps rest)
  rw [List.length_nil] at hlength
  constructor
  · intro heq
    rw [or_iff_not_imp_left, not_not]
    intro hmem
    have hcount := List.count_pos_iff.2 hmem
    have hdrop := congrArg List.length heq
    rw [List.length_drop, List.length_drop, List.length_reverse] at hdrop
    omega
  · rintro (hnot | hle)
    · rw [foldl_walk_of_not_up hnot]
    · rw [List.drop_eq_nil_of_le (by rw [List.length_reverse]; exact hle),
        List.drop_eq_nil_of_le (by omega)]

theorem kept_of_base (hbase : base.components = .root :: steps rest)
    (hpath : path.isAbsolute = false) :
    kept base path = (Component.root :: steps rest).take
      ((steps rest).length + 1 - rise path.components) := by
  rw [kept, hpath, if_neg Bool.false_ne_true, hbase, List.length_cons]

theorem normalize_eq_join_iff_of_base (hbase : base.components = .root :: steps rest)
    (hpath : path.isAbsolute = false) (hpieces : path.pieces ≠ []) :
    (normalize base path).components = (normalize root (base.join path)).components ↔
      .up ∉ base.components ∨ (kept base path).length ≤ 1 := by
  have hup : .up ∉ base.components ↔ .up ∉ steps rest := by simp [hbase]
  have hkept : (kept base path).length ≤ 1 ↔
      (steps rest).length ≤ rise path.components := by
    rw [kept_of_base hbase hpath, List.length_take, List.length_cons]
    omega
  rw [components_normalize, components_normalize, List.reverse_inj, destination_of_base hbase hpath,
    destination_root_join hbase hpath hpieces, List.append_left_inj, List.append_right_inj,
    drop_reverse_eq_iff, hup, hkept]

theorem components_normalize_of_base (hbase : base.components = .root :: steps rest)
    (hpath : path.isAbsolute = false) :
    (normalize base path).components =
      .root :: (steps rest).take ((steps rest).length - rise path.components) ++
        (path.components.foldl walk []).reverse := by
  rw [components_normalize, destination_of_base hbase hpath, List.drop_reverse]
  simp

theorem mem_normalize_of_base (hbase : base.components = .root :: steps rest)
    (hpath : path.isAbsolute = false) {c : Component} (hc : c = .cur ∨ c = .up) :
    c ∈ (normalize base path).components ↔ c ∈ kept base path := by
  have hroot : c ≠ .root := by
    rcases hc with rfl | rfl <;> exact nofun
  have hnames : c ∉ (path.components.foldl walk []).reverse := by
    intro hmem
    rcases mem_foldl_walk (List.mem_reverse.1 hmem) with hmem | ⟨-, hcur, hup⟩
    · cases hmem
    · exact hc.elim hcur hup
  rw [components_normalize_of_base hbase hpath, kept_of_base hbase hpath, List.mem_append,
    or_iff_left hnames, List.mem_cons, or_iff_right hroot]
  by_cases hrise : rise path.components ≤ (steps rest).length
  · rw [Nat.sub_add_comm hrise, List.take_succ_cons, List.mem_cons, or_iff_right hroot]
  · have hzero : (steps rest).length - rise path.components = 0 := by omega
    have hnone : (steps rest).length + 1 - rise path.components = 0 := by omega
    rw [hzero, hnone, List.take_zero, List.take_zero]

theorem cur_notMem_kept (hbase : base.components = .root :: steps rest) :
    .cur ∉ kept base path := by
  intro hmem
  rw [kept] at hmem
  split at hmem
  · cases hmem
  · have hsteps : Component.cur ∈ steps rest := by
      simpa [hbase] using List.mem_of_mem_take hmem
    obtain ⟨piece, -, hpiece⟩ := List.mem_map.1 hsteps
    unfold component at hpiece
    split at hpiece <;> cases hpiece

end Base

/-- Reading a path from an absolute base and normalizing their join come to the same just if the
base has no `..`, or nothing but the root is kept of it. A `..` that is kept is in the result, and
no other, and no `.` is. Every path that is spelled has a piece. -/
theorem normalize_kept_iff {base : Path} (hbase : base.isAbsolute = true) (text : String) :
    ((normalize base (ofText text)).components =
        (normalize root (base.join (ofText text))).components ↔
      .up ∉ base.components ∨ (kept base (ofText text)).length ≤ 1) ∧
    .cur ∉ (normalize base (ofText text)).components ∧
    (.up ∈ (normalize base (ofText text)).components ↔ .up ∈ kept base (ofText text)) := by
  have hpieces := pieces_ofText_ne_nil text
  generalize ofText text = path at hpieces
  cases hpath : path.isAbsolute with
  | true =>
    have hplain : Plain (normalize base path).components := plain_normalize (.inr hpath)
    have hkept : kept base path = [] := by rw [kept, if_pos hpath]
    have hsame : normalize base path = normalize root (base.join path) := by
      rw [join_of_isAbsolute base hpath, normalize, destination_of_isAbsolute base root hpath]
      rfl
    rw [hkept, ← hsame]
    exact ⟨iff_of_true rfl (.inr (by simp)), hplain.free.1,
      iff_of_false hplain.free.2 (by simp)⟩
  | false =>
    obtain ⟨rest, hcomponents⟩ := components_of_isAbsolute hbase
    refine ⟨normalize_eq_join_iff_of_base hcomponents hpath hpieces, ?_,
      mem_normalize_of_base hcomponents hpath (.inr rfl)⟩
    rw [mem_normalize_of_base hcomponents hpath (.inl rfl)]
    exact cur_notMem_kept hcomponents

/-- Nothing but the root is kept of a base with a `..`. -/
theorem normalize_kept_rising :
    (ofText "/a/../b").isAbsolute = true ∧ .up ∈ (ofText "/a/../b").components ∧
      kept (ofText "/a/../b") (ofText "x/../../../../c") = [.root] ∧
      (normalize (ofText "/a/../b") (ofText "x/../../../../c")).components =
        (normalize root ((ofText "/a/../b").join (ofText "x/../../../../c"))).components := by
  have hbase : (ofText "/a/../b").isAbsolute = true := by decide
  have hkept : kept (ofText "/a/../b") (ofText "x/../../../../c") = [.root] := by decide
  have hsame := (normalize_kept_iff hbase "x/../../../../c").1.2 (.inr (by simp [hkept]))
  exact ⟨hbase, by decide, hkept, hsame⟩

/-- The `..` of a base stays in what is read from it, where a join is freed of it. -/
theorem not_normalize_eq_join :
    (¬ ∀ base path : Path, base.isAbsolute = true →
      (normalize base path).components = (normalize root (base.join path)).components) ∧
    ¬ ∀ base path : Path, base.isAbsolute = true →
      .cur ∉ (normalize base path).components ∧ .up ∉ (normalize base path).components := by
  constructor
  · intro h
    exact absurd (h (ofText "/a/..") (ofText "b") (by decide)) (by decide)
  · intro h
    exact absurd (h (ofText "/a/..") (ofText "b") (by decide)).2 (by decide)

end Path
end ImportMacros
