import Mathlib.Data.List.Find
import ImportMacros.Proofs.Normalize
import ImportMacros.Proofs.Persistence

/-!
# ImportMacros.Proofs.Detour

What the spelling of a directory does to a search in memory. A search goes through the directories
that its path is spelled with: from `/a/lib/../src` it goes on to `/a/lib/..`, `/a/lib` and `/a`.
In each of them it finds what is at the place that the path leads to (`alike_inDirectory`), but
`/a/lib` is not above `/a/src`. So the search ends as that from the normalized path just if the
directory in which it ends (`stop?`) leads to that path or above it, or if both searches fail
(`alike_search_normalize_iff`). Without `..` it always does (`alike_search_of_not_up`).

The argument is one about places. Those that the directories of a path lead to (`stops`) go up and
down; those above the last of them (`climb`) all are among them, and in their order (`find?_climb`).
-/

namespace ImportMacros
namespace Path

/-! ## Places on the way -/

/-- The place that an absolute path leads to, last step first. -/
def target (p : Path) : List Component := p.components.foldl walk []

/-- The place that some steps lead to from the root. The steps are given last step first. -/
def spot (before : List Component) : List Component :=
  before.foldr (fun c place => walk place c) [.root]

/-- The places that some steps, given last step first, lead through from the root; the last one
comes first. -/
def stops : List Component → List (List Component)
  | [] => [[.root]]
  | c :: before => spot (c :: before) :: stops before

/-- A place, given last step first, and those above it, nearest first. -/
def climb : List Component → List (List Component)
  | [] => []
  | c :: above => (c :: above) :: climb above

theorem exists_stops (before : List Component) : ∃ rest, stops before = spot before :: rest := by
  cases before with
  | nil => exact ⟨[], rfl⟩
  | cons c before => exact ⟨stops before, rfl⟩

theorem exists_climb {place : List Component} (h : place ≠ []) :
    ∃ rest, climb place = place :: rest := by
  obtain ⟨c, above, rfl⟩ := List.exists_cons_of_ne_nil h
  exact ⟨climb above, rfl⟩

theorem suffix_of_mem_climb {place top : List Component} (h : place ∈ climb top) :
    place <:+ top := by
  induction top with
  | nil => cases h
  | cons c above ih =>
    rcases List.mem_cons.1 h with rfl | h
    · exact List.suffix_refl _
    · exact (ih h).trans (List.suffix_cons c above)

theorem exists_names_spot {before : List Component} (h : ∀ c ∈ before, c ≠ .root) :
    ∃ names : List String, spot before = names.map .name ++ [.root] := by
  induction before with
  | nil => exact ⟨[], rfl⟩
  | cons c before ih =>
    obtain ⟨names, hnames⟩ := ih fun c' hc' => h c' (by simp [hc'])
    have hspot : spot (c :: before) = walk (names.map .name ++ [.root]) c := by
      rw [← hnames]; rfl
    rw [hspot]
    cases c with
    | root => exact absurd rfl (h .root (by simp))
    | cur => exact ⟨names, rfl⟩
    | name name => exact ⟨name :: names, rfl⟩
    | up =>
      cases names with
      | nil => exact ⟨[], rfl⟩
      | cons name names => exact ⟨names, rfl⟩

theorem spot_ne_nil {before : List Component} (h : ∀ c ∈ before, c ≠ .root) :
    spot before ≠ [] := by
  obtain ⟨names, hnames⟩ := exists_names_spot h
  simp [hnames]

theorem spot_names (names : List String) :
    spot (names.map .name) = names.map .name ++ [.root] := by
  induction names with
  | nil => rfl
  | cons name rest ih =>
    have hspot : spot ((name :: rest).map .name) = .name name :: spot (rest.map .name) := rfl
    rw [hspot, ih]
    rfl

theorem stops_names (names : List String) :
    stops (names.map .name) = climb (names.map .name ++ [.root]) := by
  induction names with
  | nil => rfl
  | cons name rest ih =>
    rw [List.map_cons, stops, ih, ← List.map_cons, spot_names]
    rfl

theorem spot_up {before : List Component} (h : ∀ c ∈ before, c ≠ .root) :
    spot (.up :: before) = spot before ∨
      ∃ name, spot before = .name name :: spot (.up :: before) := by
  obtain ⟨names, hnames⟩ := exists_names_spot h
  have hup : spot (.up :: before) = walk (names.map .name ++ [.root]) .up :=
    congrArg (walk · .up) hnames
  rw [hup, hnames]
  cases names with
  | nil => exact .inl rfl
  | cons name names => exact .inr ⟨name, rfl⟩

/-- If the first place on the way with some property is the last place or one above it, it also
is the first one with the property on the climb from there. -/
theorem find?_climb {test : List Component → Bool} {before : List Component}
    (hroot : ∀ c ∈ before, c ≠ .root)
    (h : ∀ place, (stops before).find? test = some place → place <:+ spot before) :
    (climb (spot before)).find? test = (stops before).find? test := by
  induction before with
  | nil => rfl
  | cons c before ih =>
    have hbefore : ∀ c' ∈ before, c' ≠ .root := fun c' hc' => hroot c' (by simp [hc'])
    cases hhere : test (spot (c :: before)) with
    | true =>
      obtain ⟨rest, hclimb⟩ := exists_climb (spot_ne_nil hroot)
      rw [hclimb, stops, List.find?_cons_of_pos hhere, List.find?_cons_of_pos hhere]
    | false =>
      rw [stops, List.find?_cons_of_neg (by simp [hhere])] at h ⊢
      cases c with
      | root => exact absurd rfl (hroot .root (by simp))
      | cur => exact ih hbefore h
      | name name =>
        have hspot : spot (.name name :: before) = .name name :: spot before := rfl
        rw [hspot] at hhere h ⊢
        rw [climb, List.find?_cons_of_neg (by simp [hhere])]
        refine ih hbefore fun place hplace => ?_
        refine (List.suffix_cons_iff.1 (h place hplace)).resolve_left ?_
        rintro rfl
        exact Bool.false_ne_true (hhere.symm.trans (List.find?_some hplace))
      | up =>
        rcases spot_up hbefore with hstay | ⟨name, hleave⟩
        · rw [hstay] at h ⊢
          exact ih hbefore h
        · -- The place that `..` leaves comes first on the way, and is not above where it leads.
          have hleft : test (spot before) ≠ true := by
            intro htest
            obtain ⟨rest, hstops⟩ := exists_stops before
            have hsuffix := h (spot before) (by rw [hstops, List.find?_cons_of_pos htest])
            have hlength := hsuffix.length_le
            rw [hleave, List.length_cons] at hlength
            omega
          have hclimb : (climb (spot before)).find? test = (stops before).find? test :=
            ih hbefore fun place hplace =>
              hleave ▸ (h place hplace).trans (List.suffix_cons _ _)
          rw [← hclimb, hleave, climb, ← hleave, List.find?_cons_of_neg hleft]

/-- Without `..`, the way leads from each place to one in it. -/
theorem suffix_of_mem_stops {before : List Component} (hroot : ∀ c ∈ before, c ≠ .root)
    (hup : .up ∉ before) {place : List Component} (h : place ∈ stops before) :
    place <:+ spot before := by
  induction before with
  | nil =>
    rw [List.mem_singleton.1 h]
    exact List.suffix_refl _
  | cons c before ih =>
    have hrest : place ∈ stops before → place <:+ spot before :=
      ih (fun c' hc' => hroot c' (by simp [hc'])) fun hbefore => hup (by simp [hbefore])
    rcases List.mem_cons.1 h with rfl | hplace
    · exact List.suffix_refl _
    · cases c with
      | root => exact absurd rfl (hroot .root (by simp))
      | cur => exact hrest hplace
      | name name => exact (hrest hplace).trans (List.suffix_cons _ _)
      | up => exact absurd (by simp) hup

theorem map_walk_above {before : List Component} (h : ∀ c ∈ before, c ≠ .root) :
    ((.root :: before.reverse) :: Component.above (before ++ [.root])).map
      (·.foldl walk []) = stops before := by
  induction before with
  | nil => rfl
  | cons c before ih =>
    have hrest := ih fun c' hc' => h c' (by simp [hc'])
    have hspot : (Component.root :: (c :: before).reverse).foldl walk [] = spot (c :: before) := by
      rw [List.foldl_cons, List.foldl_reverse]
      rfl
    rw [List.cons_append, Component.above_cons (h c (by simp)), List.map_cons, hspot, stops,
      ← hrest, List.reverse_append]
    rfl

theorem head?_of_mem_above {before cs : List Component} (h : ∀ c ∈ before, c ≠ .root)
    (hcs : cs ∈ Component.above (before ++ [.root])) : cs.head? = some .root := by
  induction before with
  | nil => cases hcs
  | cons c before ih =>
    rw [List.cons_append, Component.above_cons (h c (by simp))] at hcs
    rcases List.mem_cons.1 hcs with rfl | hcs
    · simp
    · exact ih (fun c' hc' => h c' (by simp [hc'])) hcs

section Absolute

variable {p : Path}

theorem exists_components_of_isAbsolute (h : p.isAbsolute = true) :
    ∃ before : List Component, (∀ c ∈ before, c ≠ .root) ∧
      p.components = .root :: before.reverse := by
  obtain ⟨rest, heq⟩ := components_of_isAbsolute h
  refine ⟨(steps rest).reverse, fun c hc => ?_, by rw [heq, List.reverse_reverse]⟩
  exact ne_root_of_mem_steps (List.mem_reverse.1 hc)

theorem isAbsolute_of_mem_ancestors (h : p.isAbsolute = true) {q : Path} (hq : q ∈ p.ancestors) :
    q.isAbsolute = true := by
  rcases List.mem_cons.1 hq with rfl | hq
  · exact h
  · obtain ⟨before, hbefore, heq⟩ := exists_components_of_isAbsolute h
    have hmem : q.components ∈ Component.above (before ++ [.root]) := by
      have hparents := components_parents p
      rw [heq, List.reverse_cons, List.reverse_reverse] at hparents
      exact hparents ▸ List.mem_map_of_mem hq
    exact (isAbsolute_iff q).2 (head?_of_mem_above hbefore hmem)

theorem exists_before (h : p.isAbsolute = true) :
    ∃ before, (∀ c ∈ before, c ≠ .root) ∧ p.components = .root :: before.reverse ∧
      p.target = spot before ∧ p.ancestors.map target = stops before := by
  obtain ⟨before, hbefore, heq⟩ := exists_components_of_isAbsolute h
  refine ⟨before, hbefore, heq, ?_, ?_⟩
  · rw [target, heq, List.foldl_cons, List.foldl_reverse]
    rfl
  · have hstops := map_walk_above hbefore
    rw [← heq, ← List.reverse_reverse before, ← List.reverse_cons, ← heq, ← components_parents,
      ← List.map_cons, List.map_map] at hstops
    rw [← List.reverse_reverse before]
    exact hstops

theorem normalize_of_isAbsolute (base : Path) (h : p.isAbsolute = true) :
    normalize base p = ofComponents p.target.reverse := by
  rw [normalize, destination, if_pos h]
  rfl

theorem components_normalize_of_isAbsolute (base : Path) (h : p.isAbsolute = true) :
    (normalize base p).components = p.target.reverse := by
  rw [components_normalize, destination, if_pos h]
  rfl

theorem plain_target (h : p.isAbsolute = true) : Plain p.target.reverse := by
  rw [← components_normalize_of_isAbsolute root h]
  exact plain_normalize (.inr h)

/-- The directories of a path without `.` and `..` are those above where it leads. -/
theorem target_of_plain (h : Plain p.components) :
    p.target = p.components.reverse ∧ p.ancestors.map target = climb p.target := by
  obtain ⟨names, -, heq⟩ := h
  have habsolute : p.isAbsolute = true := (isAbsolute_iff p).2 (by rw [heq]; rfl)
  obtain ⟨before, -, hcomponents, htarget, hstops⟩ := exists_before habsolute
  have hbefore : before = names.reverse.map .name := by
    rw [heq] at hcomponents
    rw [List.map_reverse, (List.cons.inj hcomponents).2, List.reverse_reverse]
  rw [hbefore, spot_names] at htarget
  rw [hbefore, stops_names, ← htarget] at hstops
  exact ⟨by rw [htarget, heq, List.reverse_cons, List.map_reverse], hstops⟩

end Absolute
end Path

namespace Config

/-- Two searches end alike: both fail, both find nothing, or both find the same configuration, in
files whose paths normalize to the same path. -/
inductive Alike : Except Error (Option Loaded) → Except Error (Option Loaded) → Prop where
  | failed (error error' : Error) : Alike (.error error) (.error error')
  | missing : Alike (.ok none) (.ok none)
  | found {path path' : Path} (config : Value) :
      Path.normalize Path.root path = Path.normalize Path.root path' →
      Alike (.ok (some ⟨path, config⟩)) (.ok (some ⟨path', config⟩))

theorem Alike.exists_error {error : Error} {outcome : Except Error (Option Loaded)}
    (h : Alike (.error error) outcome) : ∃ error', outcome = .error error' := by
  cases h with
  | failed _ error' => exact ⟨error', rfl⟩

/-- A search that comes to a directory ends there. -/
def ends (fs : FileSystem) (dir : Path) : Bool :=
  match inDirectory fs dir with
  | .ok none => false
  | _ => true

/-- The directory in which a search from `dir` ends, if it does before it runs out of them. -/
def stop? (fs : FileSystem) (dir : Path) : Option Path := dir.ancestors.find? (ends fs)

section Stop

variable {fs : FileSystem}

open Explorer (fresh fresh_cons orAbove search_fst)

theorem inDirectory_of_not_ends {dir : Path} (h : ends fs dir = false) :
    inDirectory fs dir = .ok none := by
  unfold ends at h
  split at h
  · assumption
  · cases h

theorem orAbove_of_ends {dir : Path} (h : ends fs dir = true)
    (above : Except Error (Option Loaded)) :
    orAbove (inDirectory fs dir) above = inDirectory fs dir := by
  unfold ends at h
  rcases hown : inDirectory fs dir with error | _ | loaded
  · rfl
  · rw [hown] at h
    cases h
  · rfl

theorem fresh_eq_find? (dirs : List Path) :
    fresh fs dirs = ((dirs.find? (ends fs)).map (inDirectory fs)).getD (.ok none) := by
  induction dirs with
  | nil => rfl
  | cons dir rest ih =>
    rw [fresh_cons, ih]
    cases hends : ends fs dir with
    | true =>
      rw [orAbove_of_ends hends, List.find?_cons_of_pos hends]
      rfl
    | false =>
      rw [inDirectory_of_not_ends hends, List.find?_cons_of_neg (by simp [hends])]
      rfl

/-- A search comes out as the directory in which it ends. -/
theorem search_eq_stop (fs : FileSystem) (dir : Path) :
    (Explorer.search fs {} dir).1 = ((stop? fs dir).map (inDirectory fs)).getD (.ok none) := by
  rw [search_fst]
  exact fresh_eq_find? dir.ancestors

theorem stop?_of_search {dir : Path} (h : (Explorer.search fs {} dir).1 = .ok none) :
    stop? fs dir = none := by
  rw [search_eq_stop] at h
  cases hstop : stop? fs dir with
  | none => rfl
  | some stop =>
    rw [hstop] at h
    have hown : inDirectory fs stop = .ok none := h
    have hends : ends fs stop = true := List.find?_some hstop
    rw [ends, hown] at hends
    cases hends

end Stop

/-! ## In memory -/

section Memory

variable {m : Memory} {dir dir' : Path}

theorem component_of_mem_places :
    ∀ place ∈ places, Path.component place.name = .name place.name := by
  decide

theorem target_join {place : Place} (hplace : place ∈ places) (dir : Path) :
    (dir.join (Path.ofText place.name)).target = .name place.name :: dir.target := by
  obtain ⟨hstep, hname⟩ := plain_of_mem_places place hplace
  rw [Path.target, hname, Path.components_join dir hstep, component_of_mem_places place hplace,
    List.foldl_append]
  rfl

theorem isAbsolute_join {place : Place} (hplace : place ∈ places) (h : dir.isAbsolute = true) :
    (dir.join (Path.ofText place.name)).isAbsolute = true := by
  obtain ⟨hstep, hname⟩ := plain_of_mem_places place hplace
  rw [Path.isAbsolute_iff] at h ⊢
  rw [hname, Path.components_join dir hstep, List.head?_append, h]
  rfl

theorem entry?_congr_target {p q : Path} (hp : p.isAbsolute = true) (hq : q.isAbsolute = true)
    (h : p.target = q.target) : m.entry? p = m.entry? q := by
  rw [Memory.entry?, Memory.entry?, Memory.absolute, Memory.absolute,
    Path.normalize_of_isAbsolute m.cwd hp, Path.normalize_of_isAbsolute m.cwd hq, h]

theorem toOption_load {fs : FileSystem} {p q : Path} (h : fs.read p = fs.read q) (place : Place) :
    (place.load fs p).toOption = (place.load fs q).toOption := by
  unfold Place.load
  rw [h]
  split
  · rfl
  · cases fs.read q with
    | error error => rfl
    | ok text =>
      simp only
      split
      · rfl
      · split <;> rfl

theorem toOption_lookIn (h : dir.isAbsolute = true) (h' : dir'.isAbsolute = true)
    (htarget : dir.target = dir'.target) {place : Place} (hplace : place ∈ places) :
    (place.lookIn m.fileSystem dir).toOption = (place.lookIn m.fileSystem dir').toOption := by
  have hentry : m.entry? (dir.join (Path.ofText place.name)) =
      m.entry? (dir'.join (Path.ofText place.name)) := by
    refine entry?_congr_target (isAbsolute_join hplace h) (isAbsolute_join hplace h') ?_
    rw [target_join hplace, target_join hplace, htarget]
  have hisFile : m.fileSystem.isFile (dir.join (Path.ofText place.name)) =
      m.fileSystem.isFile (dir'.join (Path.ofText place.name)) := by
    simp only [Memory.fileSystem, Memory.isFile, hentry]
  have hread : m.fileSystem.read (dir.join (Path.ofText place.name)) =
      m.fileSystem.read (dir'.join (Path.ofText place.name)) := by
    simp only [Memory.fileSystem, Memory.read, hentry]
  simp only [Place.lookIn, hisFile]
  split
  · exact toOption_load hread place
  · rfl

/-- In two directories that lead to one place, a search looks into the same files. -/
theorem alike_firstIn (h : dir.isAbsolute = true) (h' : dir'.isAbsolute = true)
    (htarget : dir.target = dir'.target) {ps : List Place} (hps : ps ⊆ places) :
    Alike (firstIn m.fileSystem dir ps) (firstIn m.fileSystem dir' ps) := by
  induction ps with
  | nil => exact .missing
  | cons place rest ih =>
    have hplace : place ∈ places := hps (by simp)
    have hlook := toOption_lookIn (m := m) h h' htarget hplace
    rw [firstIn, firstIn]
    rcases hown : place.lookIn m.fileSystem dir with error | _ | config <;>
      rcases hown' : place.lookIn m.fileSystem dir' with error' | _ | config' <;>
      rw [hown, hown'] at hlook <;> cases hlook
    · exact .failed error error'
    · exact ih fun p hp => hps (by simp [hp])
    · refine .found config ?_
      rw [Path.normalize_of_isAbsolute Path.root (isAbsolute_join hplace h),
        Path.normalize_of_isAbsolute Path.root (isAbsolute_join hplace h'),
        target_join hplace, target_join hplace, htarget]

theorem alike_inDirectory (h : dir.isAbsolute = true) (h' : dir'.isAbsolute = true)
    (htarget : dir.target = dir'.target) :
    Alike (inDirectory m.fileSystem dir) (inDirectory m.fileSystem dir') :=
  alike_firstIn h h' htarget fun _ => id

theorem ends_congr_target (h : dir.isAbsolute = true) (h' : dir'.isAbsolute = true)
    (htarget : dir.target = dir'.target) : ends m.fileSystem dir = ends m.fileSystem dir' := by
  have halike := alike_inDirectory (m := m) h h' htarget
  unfold ends
  generalize inDirectory m.fileSystem dir = x at halike
  generalize inDirectory m.fileSystem dir' = y at halike
  cases halike <;> rfl

def endsAt (m : Memory) (place : List Component) : Bool :=
  ends m.fileSystem (Path.ofComponents place.reverse)

theorem endsAt_target (h : dir.isAbsolute = true) :
    endsAt m dir.target = ends m.fileSystem dir := by
  have hplain := Path.plain_target h
  have hcomponents := Path.components_ofComponents hplain.spelled
  have habsolute := Path.isAbsolute_of_plain (hcomponents.symm ▸ hplain)
  refine ends_congr_target habsolute h ?_
  rw [(Path.target_of_plain (hcomponents.symm ▸ hplain)).1, hcomponents, List.reverse_reverse]

/-- The place that a search ends at is the first one on the way at which one would. -/
theorem map_target_stop? (h : dir.isAbsolute = true) :
    (stop? m.fileSystem dir).map Path.target =
      (dir.ancestors.map Path.target).find? (endsAt m) := by
  rw [stop?, List.find?_map]
  congr 1
  refine List.find?_congr fun above habove => ?_
  exact (endsAt_target (Path.isAbsolute_of_mem_ancestors h habove)).symm

theorem isAbsolute_of_stop? (h : dir.isAbsolute = true) {stop : Path}
    (hstop : stop? m.fileSystem dir = some stop) : stop.isAbsolute = true :=
  Path.isAbsolute_of_mem_ancestors h (List.mem_of_find?_eq_some hstop)

/-- Searches that end in directories that lead to one place end alike. -/
theorem alike_search_of_stop? (h : dir.isAbsolute = true) (h' : dir'.isAbsolute = true)
    (hstop : (stop? m.fileSystem dir).map Path.target =
      (stop? m.fileSystem dir').map Path.target) :
    Alike (Explorer.search m.fileSystem {} dir).1 (Explorer.search m.fileSystem {} dir').1 := by
  rw [search_eq_stop, search_eq_stop]
  cases hdir : stop? m.fileSystem dir with
  | none =>
    rw [hdir] at hstop
    rw [Option.map_eq_none_iff.1 hstop.symm]
    exact .missing
  | some stop =>
    rw [hdir] at hstop
    obtain ⟨stop', hdir', htarget⟩ := Option.map_eq_some_iff.1 hstop.symm
    rw [hdir']
    exact alike_inDirectory (isAbsolute_of_stop? h hdir) (isAbsolute_of_stop? h' hdir')
      htarget.symm

theorem exists_stop_of_search (h : dir.isAbsolute = true) {loaded : Loaded}
    (hsearch : (Explorer.search m.fileSystem {} dir).1 = .ok (some loaded)) :
    ∃ stop name, stop? m.fileSystem dir = some stop ∧ loaded.path.isAbsolute = true ∧
      loaded.path.target = .name name :: stop.target := by
  rw [search_eq_stop] at hsearch
  cases hstop : stop? m.fileSystem dir with
  | none =>
    rw [hstop] at hsearch
    cases hsearch
  | some stop =>
    rw [hstop] at hsearch
    obtain ⟨place, hplace, hpath⟩ := isIn_of_inDirectory hsearch
    have habsolute := isAbsolute_join hplace (isAbsolute_of_stop? h hstop)
    refine ⟨stop, place.name, rfl, (Path.isAbsolute_congr hpath).trans habsolute, ?_⟩
    rw [← target_join hplace, Path.target, Path.target, hpath]

/-- The directory in which a search ends, if any, leads to where `dir` leads, or above it. -/
def EndsAbove (m : Memory) (dir : Path) : Prop :=
  ∀ stop, stop? m.fileSystem dir = some stop →
    (Path.normalize Path.root stop).components <+: (Path.normalize Path.root dir).components

theorem prefix_normalize_iff {p q : Path} (hp : p.isAbsolute = true) (hq : q.isAbsolute = true) :
    (Path.normalize Path.root p).components <+: (Path.normalize Path.root q).components ↔
      p.target <:+ q.target := by
  rw [Path.components_normalize_of_isAbsolute Path.root hp,
    Path.components_normalize_of_isAbsolute Path.root hq, List.reverse_prefix]

/-- The normalized path of an absolute one leads to the same place, by those above it. -/
theorem normalize_leads (h : dir.isAbsolute = true) :
    (Path.normalize Path.root dir).isAbsolute = true ∧
      (Path.normalize Path.root dir).target = dir.target ∧
      (Path.normalize Path.root dir).ancestors.map Path.target = Path.climb dir.target := by
  have hcomponents := Path.components_normalize_of_isAbsolute Path.root h
  have hplain : Path.Plain (Path.normalize Path.root dir).components :=
    Path.plain_normalize (.inr h)
  obtain ⟨htarget, hancestors⟩ := Path.target_of_plain hplain
  rw [hcomponents, List.reverse_reverse] at htarget
  refine ⟨?_, htarget, htarget ▸ hancestors⟩
  obtain ⟨names, -, heq⟩ := hplain
  rw [Path.isAbsolute_iff, heq]
  rfl

theorem EndsAbove.map_stop? (h : dir.isAbsolute = true) (hends : EndsAbove m dir) :
    (stop? m.fileSystem dir).map Path.target =
      (stop? m.fileSystem (Path.normalize Path.root dir)).map Path.target := by
  obtain ⟨hclean, -, hclimb⟩ := normalize_leads h
  obtain ⟨before, hbefore, -, htarget, hstops⟩ := Path.exists_before h
  have hstop := map_target_stop? (m := m) h
  rw [hstops] at hstop
  rw [hstop, map_target_stop? hclean, hclimb, htarget]
  refine (Path.find?_climb hbefore fun place hplace => ?_).symm
  rw [hplace] at hstop
  obtain ⟨stop, hfind, rfl⟩ := Option.map_eq_some_iff.1 hstop
  rw [← htarget]
  exact (prefix_normalize_iff (isAbsolute_of_stop? h hfind) h).1 (hends stop hfind)

theorem endsAbove_of_not_up (h : dir.isAbsolute = true) (hup : .up ∉ dir.components) :
    EndsAbove m dir := by
  intro stop hstop
  obtain ⟨before, hbefore, hcomponents, htarget, hstops⟩ := Path.exists_before h
  rw [prefix_normalize_iff (isAbsolute_of_stop? h hstop) h, htarget]
  refine Path.suffix_of_mem_stops hbefore (fun h => hup ?_) ?_
  · simp [hcomponents, h]
  · exact hstops ▸ List.mem_map_of_mem (List.mem_of_find?_eq_some hstop)

/-- Without `..`, the spelling of a directory makes no difference. -/
theorem alike_search_of_not_up (m : Memory) {dir : Path} (h : dir.isAbsolute = true)
    (hup : .up ∉ dir.components) :
    Alike (Explorer.search m.fileSystem {} dir).1
      (Explorer.search m.fileSystem {} (Path.normalize Path.root dir)).1 :=
  alike_search_of_stop? h (normalize_leads h).1 ((endsAbove_of_not_up h hup).map_stop? h)

theorem endsAbove_of_alike (h : dir.isAbsolute = true) {loaded : Loaded}
    (hfound : (Explorer.search m.fileSystem {} dir).1 = .ok (some loaded))
    (halike : Alike (Explorer.search m.fileSystem {} dir).1
      (Explorer.search m.fileSystem {} (Path.normalize Path.root dir)).1) : EndsAbove m dir := by
  obtain ⟨hclean, -, hclimb⟩ := normalize_leads h
  obtain ⟨stop, name, hstop, habsolute, htarget⟩ := exists_stop_of_search h hfound
  rw [hfound] at halike
  generalize hfound' : (Explorer.search m.fileSystem {} (Path.normalize Path.root dir)).1 = outcome
    at halike
  cases halike with
  | found config hpath =>
    obtain ⟨stop', name', hstop', habsolute', htarget'⟩ := exists_stop_of_search hclean hfound'
    have hplace := congrArg Path.components hpath
    rw [Path.components_normalize_of_isAbsolute Path.root habsolute,
      Path.components_normalize_of_isAbsolute Path.root habsolute', List.reverse_inj, htarget,
      htarget'] at hplace
    have hmem : stop'.target ∈ Path.climb dir.target :=
      hclimb ▸ List.mem_map_of_mem (List.mem_of_find?_eq_some hstop')
    intro last hlast
    rw [hstop] at hlast
    cases hlast
    rw [prefix_normalize_iff (isAbsolute_of_stop? h hstop) h, (List.cons.inj hplace).2]
    exact Path.suffix_of_mem_climb hmem

/-- A search from an absolute directory ends as that from the normalized path just if it ends at
that path or above it, or if both fail. -/
theorem alike_search_normalize_iff (m : Memory) {dir : Path} (h : dir.isAbsolute = true) :
    Alike (Explorer.search m.fileSystem {} dir).1
        (Explorer.search m.fileSystem {} (Path.normalize Path.root dir)).1 ↔
      EndsAbove m dir ∨
        (∃ error, (Explorer.search m.fileSystem {} dir).1 = .error error) ∧
          ∃ error,
            (Explorer.search m.fileSystem {} (Path.normalize Path.root dir)).1 = .error error := by
  obtain ⟨hclean, -, -⟩ := normalize_leads h
  constructor
  · intro halike
    rcases hsearch : (Explorer.search m.fileSystem {} dir).1 with error | _ | loaded
    · rw [hsearch] at halike
      exact .inr ⟨⟨error, rfl⟩, halike.exists_error⟩
    · exact .inl fun stop hstop => absurd hstop (by simp [stop?_of_search hsearch])
    · exact .inl (endsAbove_of_alike h hsearch halike)
  · rintro (hends | ⟨⟨error, herror⟩, error', herror'⟩)
    · exact alike_search_of_stop? h hclean (hends.map_stop? h)
    · rw [herror, herror']
      exact .failed error error'

def configured : Memory :=
  ({} : Memory).write (Path.ofText "/a/.babel-plugin-macrosrc") "\x7b\x7d"

/-- `..` below the directory stays below it. -/
theorem alike_search_configured :
    (Path.ofText "/a/x/../y").isAbsolute = true ∧
      Alike (Explorer.search configured.fileSystem {} (Path.ofText "/a/x/../y")).1
        (Explorer.search configured.fileSystem {}
          (Path.normalize Path.root (Path.ofText "/a/x/../y"))).1 := by
  have hends : EndsAbove configured (Path.ofText "/a/x/../y") := by
    intro stop hstop
    have hinside : stop? configured.fileSystem (Path.ofText "/a/x/../y") =
        some (Path.ofText "/a/x/..") := by
      decide +kernel
    cases hinside.symm.trans hstop
    decide +kernel
  exact ⟨rfl, (alike_search_normalize_iff configured rfl).2 (.inl hends)⟩

/-- The search from a path that leads out of the directory finds its configuration. -/
theorem not_alike_search_normalize :
    ¬ ∀ (m : Memory) (dir : Path), dir.isAbsolute = true →
      Alike (Explorer.search m.fileSystem {} dir).1
        (Explorer.search m.fileSystem {} (Path.normalize Path.root dir)).1 := by
  intro h
  have halike := h configured (Path.ofText "/a/../b") rfl
  have hstop : stop? configured.fileSystem (Path.ofText "/a/../b") =
      some (Path.ofText "/a") := by
    decide +kernel
  have hnone : stop? configured.fileSystem
      (Path.normalize Path.root (Path.ofText "/a/../b")) = none := by
    decide +kernel
  rw [search_eq_stop, search_eq_stop, hstop, hnone, Option.map_some, Option.getD_some] at halike
  have hends : ends configured.fileSystem (Path.ofText "/a") = true :=
    List.find?_some hstop
  unfold ends at hends
  generalize inDirectory configured.fileSystem (Path.ofText "/a") = own at halike hends
  cases halike
  cases hends

end Memory
end Config
end ImportMacros
