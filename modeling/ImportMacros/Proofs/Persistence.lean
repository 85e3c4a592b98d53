import ImportMacros.Proofs.Explorer

/-!
# ImportMacros.Proofs.Persistence

What an explorer remembers while the files change under it. A `Watch` is a file system together
with an explorer of it; between two moments either the files change, in any way, or there is a
search. Whatever happens (`lasting_after`):

* a search that fails leaves the explorer as it was;
* what is remembered stays, so the outcome of a search stays with its directory;
* what is remembered for a directory is in the directory, or is remembered for the one above it as
  well (`Closed`).

A search keeps `Closed` because every directory it looks into is followed on its walk by the one
above, which is then remembered with it or was known before (`beyond_of_mem_visited`). What was on
the disk when does not matter.
-/

namespace ImportMacros
namespace Config

def Loaded.IsIn (loaded : Loaded) (dir : Path) : Prop :=
  ∃ place ∈ places, loaded.path.components = (dir.join (Path.ofText place.name)).components

theorem Loaded.IsIn.congr {loaded : Loaded} {dir dir' : Path} (h : loaded.IsIn dir)
    (hdir : dir.components = dir'.components) : loaded.IsIn dir' := by
  obtain ⟨place, hplace, hpath⟩ := h
  exact ⟨place, hplace, hpath.trans (components_place hplace hdir)⟩

theorem isIn_of_firstIn {fs : FileSystem} {dir : Path} {ps : List Place} {loaded : Loaded}
    (hps : ps ⊆ places) (h : firstIn fs dir ps = .ok (some loaded)) : loaded.IsIn dir := by
  induction ps with
  | nil => cases h
  | cons place ps ih =>
    rw [firstIn] at h
    split at h
    · cases h
    · cases h
      exact ⟨place, hps (by simp), rfl⟩
    · exact ih (fun p hp => hps (by simp [hp])) h

theorem isIn_of_inDirectory {fs : FileSystem} {dir : Path} {loaded : Loaded}
    (h : inDirectory fs dir = .ok (some loaded)) : loaded.IsIn dir :=
  isIn_of_firstIn (fun _ => id) h

namespace Explorer

variable {fs : FileSystem} {explorer : Explorer}

/-! ## What a walk adds -/

theorem known?_congr (explorer : Explorer) {dir dir' : Path}
    (h : dir.components = dir'.components) : explorer.known? dir = explorer.known? dir' := by
  rw [known?, known?, h]

theorem known?_remember_of_mem {dirs : List Path} {dir : Path} (found : Option Loaded)
    (h : dir ∈ dirs) : (explorer.remember dirs found).known? dir = some found := by
  induction dirs with
  | nil => cases h
  | cons first rest ih =>
    rw [known?, remember, List.map_cons, List.cons_append, List.lookup_cons]
    split
    · rfl
    · rename_i hne
      rcases List.mem_cons.1 h with rfl | h
      · simp at hne
      · exact ih h

theorem known?_remember_of_forall_ne {dirs : List Path} {dir : Path} (found : Option Loaded)
    (h : ∀ d ∈ dirs, d.components ≠ dir.components) :
    (explorer.remember dirs found).known? dir = explorer.known? dir := by
  induction dirs with
  | nil => rfl
  | cons first rest ih =>
    rw [known?, remember, List.map_cons, List.cons_append, List.lookup_cons]
    split
    · rename_i heq
      exact absurd (eq_of_beq heq).symm (h first (by simp))
    · exact ih fun d hd => h d (by simp [hd])

theorem known?_of_mem_visited {dirs : List Path} {w : Walk} (h : explorer.walk fs dirs = .ok w) :
    ∀ d ∈ w.visited, explorer.known? d = none := by
  induction dirs generalizing w with
  | nil =>
    cases h
    simp
  | cons first rest ih =>
    rw [walk] at h
    split at h
    · cases h
      simp
    · rename_i hunknown
      split at h
      · cases h
      · cases h
        simp [hunknown]
      · split at h
        · cases h
        · rename_i w' hwalk
          cases h
          intro d hd
          rcases List.mem_cons.1 hd with rfl | hd
          · exact hunknown
          · exact ih hwalk d hd

/-- To remember what a walk has looked into changes nothing that is known. -/
theorem known?_remember_of_known {dirs : List Path} {w : Walk} {dir : Path}
    {found : Option Loaded} (hwalk : explorer.walk fs dirs = .ok w)
    (hknown : explorer.known? dir = some found) :
    (explorer.remember w.visited w.outcome).known? dir = some found := by
  rw [known?_remember_of_forall_ne, hknown]
  intro v hv heq
  have hunknown := known?_of_mem_visited hwalk v hv
  rw [known?_congr explorer heq, hknown] at hunknown
  cases hunknown

theorem head_of_walk {dir : Path} {rest : List Path} {w : Walk}
    (h : explorer.walk fs (dir :: rest) = .ok w) :
    dir ∈ w.visited ∨ explorer.known? dir = some w.outcome := by
  rw [walk] at h
  split at h
  · rename_i hknown
    cases h
    exact .inr hknown
  · split at h
    · cases h
    · cases h
      exact .inl (by simp)
    · split at h
      · cases h
      · cases h
        exact .inl (by simp)

/-- Above a directory that a walk has looked into, the outcome is in the directory, or the walk
goes on. -/
theorem beyond_of_mem_visited {dirs : List Path} {w : Walk} (h : explorer.walk fs dirs = .ok w)
    {dir : Path} (hdir : dir ∈ w.visited) :
    ∃ front rest, dirs = front ++ dir :: rest ∧
      ((∃ loaded, w.outcome = some loaded ∧ loaded.IsIn dir) ∨
        ∀ next above, rest = next :: above →
          next ∈ w.visited ∨ explorer.known? next = some w.outcome) := by
  induction dirs generalizing w with
  | nil =>
    cases h
    cases hdir
  | cons first rest ih =>
    rw [walk] at h
    split at h
    · cases h
      cases hdir
    · split at h
      · cases h
      · rename_i loaded hloaded
        cases h
        rw [List.mem_singleton.1 hdir]
        exact ⟨[], rest, rfl, .inl ⟨loaded, rfl, isIn_of_inDirectory hloaded⟩⟩
      · split at h
        · cases h
        · rename_i w' hwalk
          cases h
          rcases List.mem_cons.1 hdir with rfl | hdir
          · refine ⟨[], rest, rfl, .inr fun next above hrest => ?_⟩
            subst hrest
            exact (head_of_walk hwalk).imp_left fun hnext => by simp [hnext]
          · obtain ⟨front, above, rfl, hbeyond⟩ := ih hwalk hdir
            refine ⟨first :: front, above, rfl, hbeyond.imp_right fun hnext => ?_⟩
            exact fun next above' heq => (hnext next above' heq).imp_left fun hmem => by simp [hmem]

/-! ## What a search keeps -/

def Extends (before after : Explorer) : Prop :=
  ∀ dir found, before.known? dir = some found → after.known? dir = some found

theorem Extends.refl (explorer : Explorer) : Extends explorer explorer := fun _ _ h => h

theorem Extends.trans {before middle after : Explorer} (h : Extends before middle)
    (h' : Extends middle after) : Extends before after :=
  fun dir found hknown => h' dir found (h dir found hknown)

theorem extends_search (fs : FileSystem) (explorer : Explorer) (dir : Path) :
    Extends explorer (explorer.search fs dir).2.1 := by
  rw [search]
  split
  · exact .refl explorer
  · rename_i w hwalk
    intro d found hknown
    exact known?_remember_of_known hwalk hknown

theorem search_of_error {dir : Path} {error : Error}
    (h : (explorer.search fs dir).1 = .error error) : (explorer.search fs dir).2.1 = explorer := by
  rw [search] at h ⊢
  split at h
  · rfl
  · cases h

theorem known?_search {dir : Path} {found : Option Loaded}
    (h : (explorer.search fs dir).1 = .ok found) :
    (explorer.search fs dir).2.1.known? dir = some found := by
  rw [search] at h ⊢
  split at h
  · cases h
  · rename_i w hwalk
    cases h
    simp only
    rcases head_of_walk hwalk with hvisited | hknown
    · exact known?_remember_of_mem w.outcome hvisited
    · exact known?_remember_of_known hwalk hknown

theorem search_of_known {dir : Path} {found : Option Loaded}
    (h : explorer.known? dir = some found) : (explorer.search fs dir).1 = .ok found := by
  rw [search_fst]
  exact outcome_of_known h dir.parents

/-- What is remembered for a directory is in it, or is remembered for the one above it as well. -/
def Closed (explorer : Explorer) : Prop :=
  ∀ dir found, explorer.known? dir = some found →
    (∀ loaded, found = some loaded → ¬loaded.IsIn dir) →
    ∀ above, dir.parent? = some above → explorer.known? above = some found

theorem closed_empty : Closed {} := by
  intro dir found h
  cases h

/-- Upward from a directory, the next one is the directory above, however it is spelled. -/
theorem Upward.parent {v dir above : Path} {rest : List Path} (h : Upward (v :: rest))
    (hv : v.components = dir.components) (habove : dir.parent? = some above) :
    ∃ next more, rest = next :: more ∧ next.components = above.components := by
  have hrest := h v rest rfl
  rw [hv, ← Path.components_parents] at hrest
  obtain ⟨more, hparents⟩ := List.head?_eq_some_iff.1 habove
  rw [hparents, List.map_cons] at hrest
  obtain ⟨next, more', rfl, hnext, -⟩ := List.map_eq_cons_iff.1 hrest
  exact ⟨next, more', rfl, hnext⟩

theorem Closed.search (h : Closed explorer) (fs : FileSystem) (dir : Path) :
    Closed (explorer.search fs dir).2.1 := by
  have hextends := extends_search fs explorer dir
  rw [Explorer.search] at hextends ⊢
  split
  · exact h
  · rename_i w hwalk
    rw [hwalk] at hextends
    intro d found hknown houtside above habove
    -- Either this walk has looked into `d`, under the spelling `v`, or `d` was known before.
    rcases known?_remember hknown with ⟨v, hv, hcomponents, rfl⟩ | hknown
    · obtain ⟨front, rest, hancestors, hbeyond⟩ := beyond_of_mem_visited hwalk hv
      have hupward : Upward (v :: rest) :=
        Upward.of_append (hancestors ▸ upward_ancestors dir)
      rcases hbeyond with ⟨loaded, hloaded, hin⟩ | hbeyond
      · exact absurd (hin.congr hcomponents) (houtside loaded hloaded)
      · obtain ⟨next, more, rfl, hnext⟩ := hupward.parent hcomponents habove
        rw [← known?_congr _ hnext]
        rcases hbeyond next more rfl with hmem | hnextknown
        · exact known?_remember_of_mem w.outcome hmem
        · exact hextends next w.outcome hnextknown
    · exact hextends above found (h d found hknown houtside above habove)

/-! ## Runs -/

/-- What can happen: the files change, in any way, or there is a search. -/
inductive Move where
  | change (fs : FileSystem)
  | search (dir : Path)

structure Watch where
  fs : FileSystem
  explorer : Explorer

namespace Watch

def make (w : Watch) : Move → Watch
  | .change fs => { w with fs := fs }
  | .search dir => { w with explorer := (w.explorer.search w.fs dir).2.1 }

def after (w : Watch) (moves : List Move) : Watch := moves.foldl make w

theorem extends_after (w : Watch) (moves : List Move) :
    w.explorer.Extends (w.after moves).explorer := by
  induction moves generalizing w with
  | nil => exact .refl w.explorer
  | cons move rest ih =>
    have hmove : w.explorer.Extends (w.make move).explorer := by
      cases move with
      | change fs => exact .refl w.explorer
      | search dir => exact extends_search w.fs w.explorer dir
    exact hmove.trans (ih (w.make move))

theorem closed_after {w : Watch} (h : w.explorer.Closed) (moves : List Move) :
    (w.after moves).explorer.Closed := by
  induction moves generalizing w with
  | nil => exact h
  | cons move rest ih =>
    refine ih ?_
    cases move with
    | change fs => exact h
    | search dir => exact h.search w.fs dir

/-- The laws of what an explorer remembers. -/
structure Lasting (w : Watch) : Prop where
  failed : ∀ dir error, (w.explorer.search w.fs dir).1 = .error error →
    (w.make (.search dir)).explorer = w.explorer
  kept : ∀ dir found, w.explorer.known? dir = some found →
    ∀ moves, (w.after moves).explorer.known? dir = some found
  /-- A directory whose search has come to an outcome has it for good. -/
  settled : ∀ dir found, (w.explorer.search w.fs dir).1 = .ok found →
    ∀ moves dir', dir'.components = dir.components →
      let later := w.after (.search dir :: moves)
      (later.explorer.search later.fs dir').1 = .ok found
  /-- What is not in a directory is remembered for the one above it as well. -/
  closed : w.explorer.Closed

/-- The laws hold at all times, from a fresh explorer on. -/
theorem lasting_after (fs : FileSystem) (moves : List Move) :
    Lasting ((Watch.mk fs {}).after moves) := by
  refine ⟨fun dir error => search_of_error, ?_, ?_, closed_after closed_empty moves⟩
  · intro dir found hknown more
    exact extends_after _ more dir found hknown
  · intro dir found hsearch more dir' hdir
    refine search_of_known ?_
    rw [known?_congr _ hdir]
    exact extends_after _ more dir found (known?_search hsearch)

/-- Above a directory with a configuration, its outcome stays when the file is gone. -/
example :
    (((Watch.mk twoDirectories.fileSystem {}).after [.search (Path.ofText "/a/x/y"),
        .search (Path.ofText "/b"), .change ({} : Memory).fileSystem]).explorer.known?
      (Path.ofText "/a/./x")).map (·.map (·.path.components)) =
    some (some [.root, .name "a", .name ".babel-plugin-macrosrc.json"]) := by
  decide

end Watch

end Explorer

end Config
end ImportMacros
