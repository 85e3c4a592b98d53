import ImportMacros.Config.Explorer
import ImportMacros.FileSystem.Memory
import ImportMacros.Proofs.Path

/-!
# ImportMacros.Proofs.Explorer

What an explorer remembers makes no difference to what it finds. As long as the file system
answers alike for all spellings of a path (`FileSystem.IsLexical`), a search after any earlier
searches comes out as the same search with a fresh explorer, paths taken by their components
(`search_afterSearches`).

The invariant is `Explorer.Sound`: what is remembered for a directory is what a fresh explorer
finds from there. A search keeps it (`Sound.search`), because every directory that it remembers
stands at the head of a part of its walk that has the same outcome
(`exists_walk_of_mem_visited`).
-/

namespace ImportMacros

/-- A file system that answers alike for all spellings of a path. -/
structure FileSystem.IsLexical (fs : FileSystem) : Prop where
  isFile : ∀ p q : Path, p.components = q.components → fs.isFile p = fs.isFile q
  read : ∀ p q : Path, p.components = q.components → fs.read p = fs.read q

theorem Memory.isLexical (m : Memory) : m.fileSystem.IsLexical := by
  have hentry : ∀ p q : Path, p.components = q.components → m.entry? p = m.entry? q := by
    intro p q h
    unfold entry? absolute
    rw [Path.normalize_congr m.cwd h]
  constructor
  · intro p q h
    simp only [fileSystem, isFile, hentry p q h]
  · intro p q h
    simp only [fileSystem, read, hentry p q h]

namespace Config

/-! ## Outcomes by components -/

/-- An error, with its path apart and by its components. -/
def Error.view : Error → Error × List Component
  | .script path => (.script Path.root, path.components)
  | .unreadable error => (.unreadable error, [])
  | .malformed path text => (.malformed Path.root text, path.components)

def Loaded.view (loaded : Loaded) : List Component × Value :=
  (loaded.path.components, loaded.config)

/-- The outcome of a search, with paths by their components. -/
def view : Except Error (Option Loaded) →
    Except (Error × List Component) (Option (List Component × Value))
  | .error error => .error error.view
  | .ok loaded => .ok (loaded.map Loaded.view)

section Directory

variable {fs : FileSystem}

/-- Outcomes that differ at most in what `f` leaves out of errors. -/
theorem mapError_cases {α ε ε' : Type} {f : ε → ε'} {x y : Except ε α}
    (h : x.mapError f = y.mapError f) :
    (∃ error error', x = .error error ∧ y = .error error' ∧ f error = f error') ∨
      ∃ a, x = .ok a ∧ y = .ok a := by
  cases x with
  | error error =>
    cases y with
    | error error' => exact .inl ⟨error, error', rfl, rfl, Except.error.inj h⟩
    | ok b => cases h
  | ok a =>
    cases y with
    | error error' => cases h
    | ok b => cases h; exact .inr ⟨a, rfl, rfl⟩

theorem load_congr (hfs : fs.IsLexical) (place : Place) {p q : Path}
    (h : p.components = q.components) :
    (place.load fs p).mapError Error.view = (place.load fs q).mapError Error.view := by
  unfold Place.load
  split
  · show Except.error (Error.view (.script p)) = .error (Error.view (.script q))
    rw [Error.view, Error.view, h]
  · rw [hfs.read p q h]
    split
    · rfl
    · rename_i text _
      split
      · rfl
      · split
        · show Except.error (Error.view (.malformed p text)) =
            .error (Error.view (.malformed q text))
          rw [Error.view, Error.view, h]
        · rfl

theorem plain_of_mem_places : ∀ place ∈ places,
    Path.isStep place.name = true ∧ Path.ofText place.name = ⟨[place.name]⟩ := by
  decide

theorem components_place {place : Place} (hplace : place ∈ places) {dir dir' : Path}
    (h : dir.components = dir'.components) :
    (dir.join (Path.ofText place.name)).components =
      (dir'.join (Path.ofText place.name)).components := by
  obtain ⟨hstep, hname⟩ := plain_of_mem_places place hplace
  rw [hname, Path.components_join dir hstep, Path.components_join dir' hstep, h]

theorem lookIn_congr (hfs : fs.IsLexical) {place : Place} (hplace : place ∈ places)
    {dir dir' : Path} (h : dir.components = dir'.components) :
    (place.lookIn fs dir).mapError Error.view = (place.lookIn fs dir').mapError Error.view := by
  have hpath := components_place hplace h
  simp only [Place.lookIn, hfs.isFile _ _ hpath]
  split
  · exact load_congr hfs place hpath
  · rfl

theorem firstIn_congr (hfs : fs.IsLexical) {dir dir' : Path}
    (h : dir.components = dir'.components) {ps : List Place} (hps : ps ⊆ places) :
    view (firstIn fs dir ps) = view (firstIn fs dir' ps) := by
  induction ps with
  | nil => rfl
  | cons place ps ih =>
    have hplace : place ∈ places := hps (by simp)
    have hpath := components_place hplace h
    rw [firstIn, firstIn]
    obtain ⟨error, error', hx, hy, herror⟩ | ⟨found, hx, hy⟩ :=
      mapError_cases (lookIn_congr hfs hplace h)
    · simp only [hx, hy, view, herror]
    · rw [hx, hy]
      cases found with
      | some config => simp only [view, Option.map_some, Loaded.view, hpath]
      | none => exact ih fun p hp => hps (by simp [hp])

theorem inDirectory_congr (hfs : fs.IsLexical) {dir dir' : Path}
    (h : dir.components = dir'.components) :
    view (inDirectory fs dir) = view (inDirectory fs dir') :=
  firstIn_congr hfs h fun _ => id

end Directory

namespace Explorer

variable {fs : FileSystem} {explorer : Explorer}

/-! ## Walks -/

def outcome (fs : FileSystem) (explorer : Explorer) (dirs : List Path) :
    Except Error (Option Loaded) :=
  (explorer.walk fs dirs).map Walk.outcome

theorem search_fst (fs : FileSystem) (explorer : Explorer) (dir : Path) :
    (explorer.search fs dir).1 = explorer.outcome fs dir.ancestors := by
  rw [search, outcome]
  cases explorer.walk fs dir.ancestors <;> rfl

theorem outcome_of_known {dir : Path} {found : Option Loaded}
    (h : explorer.known? dir = some found) (rest : List Path) :
    explorer.outcome fs (dir :: rest) = .ok found := by
  rw [outcome, walk, h]
  rfl

/-- The outcome for a directory: what is in it, or else the outcome for those above. -/
def orAbove (own above : Except Error (Option Loaded)) : Except Error (Option Loaded) :=
  match own with
  | .error error => .error error
  | .ok (some loaded) => .ok (some loaded)
  | .ok none => above

theorem view_orAbove {own own' above above' : Except Error (Option Loaded)}
    (hown : view own = view own') (habove : view above = view above') :
    view (orAbove own above) = view (orAbove own' above') := by
  rcases own with error | _ | loaded <;> rcases own' with error' | _ | loaded' <;>
    first | exact habove | exact hown | cases hown

theorem outcome_of_not_known {dir : Path} (h : explorer.known? dir = none) (rest : List Path) :
    explorer.outcome fs (dir :: rest) =
      orAbove (inDirectory fs dir) (explorer.outcome fs rest) := by
  simp only [outcome, walk, h]
  cases inDirectory fs dir with
  | error error => rfl
  | ok found =>
    cases found with
    | some loaded => rfl
    | none => cases explorer.walk fs rest <;> rfl

/-- The outcome of a walk that starts with nothing remembered. -/
def fresh (fs : FileSystem) (dirs : List Path) : Except Error (Option Loaded) :=
  outcome fs {} dirs

theorem fresh_cons (fs : FileSystem) (dir : Path) (rest : List Path) :
    fresh fs (dir :: rest) = orAbove (inDirectory fs dir) (fresh fs rest) :=
  outcome_of_not_known rfl rest

theorem fresh_congr (hfs : fs.IsLexical) {dirs dirs' : List Path}
    (h : dirs.map Path.components = dirs'.map Path.components) :
    view (fresh fs dirs) = view (fresh fs dirs') := by
  induction dirs generalizing dirs' with
  | nil =>
    cases dirs' with
    | nil => rfl
    | cons dir' rest' => cases h
  | cons dir rest ih =>
    cases dirs' with
    | nil => cases h
    | cons dir' rest' =>
      obtain ⟨hdir, hrest⟩ := List.cons.inj h
      rw [fresh_cons, fresh_cons]
      exact view_orAbove (inDirectory_congr hfs hdir) (ih hrest)

def Upward (dirs : List Path) : Prop :=
  ∀ dir rest, dirs = dir :: rest →
    rest.map Path.components = Component.above dir.components.reverse

theorem upward_ancestors (dir : Path) : Upward dir.ancestors := by
  intro _ _ h
  cases h
  exact Path.components_parents dir

theorem Upward.tail {dir : Path} {rest : List Path} (h : Upward (dir :: rest)) : Upward rest := by
  intro next above heq
  subst heq
  have habove := h dir (next :: above) rfl
  rw [List.map_cons] at habove
  exact Component.above_of_above_eq_cons habove.symm

theorem Upward.of_append {front dirs : List Path} (h : Upward (front ++ dirs)) :
    Upward dirs := by
  induction front with
  | nil => exact h
  | cons first front ih => exact ih h.tail

/-! ## The invariant -/

/-- What is remembered for a directory is what a fresh explorer finds from there. -/
def Sound (fs : FileSystem) (explorer : Explorer) : Prop :=
  ∀ dirs dir rest found, dirs = dir :: rest → Upward dirs → explorer.known? dir = some found →
    view (.ok found) = view (fresh fs dirs)

theorem sound_empty (fs : FileSystem) : Sound fs {} := by
  intro _ _ _ _ _ _ h
  cases h

theorem Sound.outcome (h : Sound fs explorer) {dirs : List Path} (hdirs : Upward dirs) :
    view (explorer.outcome fs dirs) = view (fresh fs dirs) := by
  induction dirs with
  | nil => rfl
  | cons dir rest ih =>
    cases hknown : explorer.known? dir with
    | some found =>
      rw [outcome_of_known hknown]
      exact h (dir :: rest) dir rest found rfl hdirs hknown
    | none =>
      rw [outcome_of_not_known hknown, fresh_cons]
      exact view_orAbove rfl (ih hdirs.tail)

/-- A directory that a walk has looked into begins a walk with the same outcome. -/
theorem exists_walk_of_mem_visited {dirs : List Path} {w : Walk}
    (h : explorer.walk fs dirs = .ok w) {dir : Path} (hdir : dir ∈ w.visited) :
    ∃ front rest, dirs = front ++ dir :: rest ∧
      explorer.outcome fs (dir :: rest) = .ok w.outcome := by
  induction dirs generalizing w with
  | nil =>
    cases h
    cases hdir
  | cons first rest ih =>
    have hfirst : explorer.outcome fs (first :: rest) = .ok w.outcome := by
      rw [outcome, h]; rfl
    rw [walk] at h
    split at h
    · cases h
      cases hdir
    · split at h
      · cases h
      · cases h
        rw [List.mem_singleton.1 hdir]
        exact ⟨[], rest, rfl, hfirst⟩
      · split at h
        · cases h
        · rename_i w' hwalk
          cases h
          rcases List.mem_cons.1 hdir with rfl | hdir
          · exact ⟨[], rest, rfl, hfirst⟩
          · obtain ⟨front, rest', rfl, houtcome⟩ := ih hwalk hdir
            exact ⟨first :: front, rest', rfl, houtcome⟩

theorem known?_remember {dirs : List Path} {found known : Option Loaded} {dir : Path}
    (h : (explorer.remember dirs found).known? dir = some known) :
    (∃ d ∈ dirs, d.components = dir.components ∧ found = known) ∨
      explorer.known? dir = some known := by
  induction dirs with
  | nil => exact .inr h
  | cons first rest ih =>
    rw [known?, remember, List.map_cons, List.cons_append, List.lookup_cons] at h
    split at h
    · rename_i heq
      exact .inl ⟨first, by simp, (eq_of_beq heq).symm, Option.some.inj h⟩
    · rcases ih h with ⟨d, hd, hcomponents, hfound⟩ | h
      · exact .inl ⟨d, by simp [hd], hcomponents, hfound⟩
      · exact .inr h

theorem Sound.search (hfs : fs.IsLexical) (h : Sound fs explorer) (dir : Path) :
    Sound fs (explorer.search fs dir).2.1 := by
  rw [Explorer.search]
  split
  · exact h
  · rename_i w hwalk
    intro dirs d rest found hdirs hupward hknown
    rcases known?_remember hknown with ⟨v, hv, hcomponents, rfl⟩ | hknown
    · obtain ⟨front, above, hancestors, houtcome⟩ := exists_walk_of_mem_visited hwalk hv
      have hsuffix : Upward (v :: above) :=
        Upward.of_append (hancestors ▸ upward_ancestors dir)
      rw [← houtcome, h.outcome hsuffix]
      refine fresh_congr hfs ?_
      subst hdirs
      rw [List.map_cons, List.map_cons, hsuffix v above rfl, hupward d rest rfl, hcomponents]
    · exact h dirs d rest found hdirs hupward hknown

def afterSearches (fs : FileSystem) (explorer : Explorer) (dirs : List Path) : Explorer :=
  dirs.foldl (fun explorer dir => (explorer.search fs dir).2.1) explorer

theorem Sound.afterSearches (hfs : fs.IsLexical) (h : Sound fs explorer) (dirs : List Path) :
    Sound fs (explorer.afterSearches fs dirs) := by
  induction dirs generalizing explorer with
  | nil => exact h
  | cons dir rest ih => exact ih (h.search hfs dir)

/-- A search comes out as with a fresh explorer, whatever was searched for before. -/
theorem search_afterSearches (hfs : fs.IsLexical) (dirs : List Path) (dir : Path) :
    view ((afterSearches fs {} dirs).search fs dir).1 = view (search fs {} dir).1 := by
  rw [search_fst, search_fst]
  exact ((sound_empty fs).afterSearches hfs dirs).outcome (upward_ancestors dir)

/-- A directory with a configuration, and one with a broken package description. -/
def twoDirectories : Memory :=
  (({} : Memory).write (Path.ofText "/a/.babel-plugin-macrosrc.json") "\x7b\x7d").write
    (Path.ofText "/b/package.json") "?"

theorem search_twoDirectories :
    view ((afterSearches twoDirectories.fileSystem {}
        [Path.ofText "/a//x", Path.ofText "/b/y", Path.ofText "/a/x/./z"]).search
      twoDirectories.fileSystem (Path.ofText "/a/x/")).1 =
    view (search twoDirectories.fileSystem {} (Path.ofText "/a/x/")).1 :=
  search_afterSearches twoDirectories.isLexical _ _

end Explorer

end Config
end ImportMacros
