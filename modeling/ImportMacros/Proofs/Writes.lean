import ImportMacros.FileSystem.Memory
import ImportMacros.Proofs.Normalize

/-!
# ImportMacros.Proofs.Writes

What a memory answers, told from the calls that were made on it. `writes` lists the writes of a
run, each with the normal form that its path had at that moment, since the working directory moves
between them. About any path only the last write at its place or below counts (`told_after`): the
place is a file if that write was aimed at it, and a directory if it was aimed below.

So a place above an entry can have become a file, if a write was aimed at it later
(`not_isDir_of_mem_parents`). That is the only way (`isDir_of_mem_parents`).
-/

namespace ImportMacros
namespace Memory

open ImportMacros.Path (Plain)

inductive Call where
  | write (path : Path) (contents : String)
  | setCwd (path : Path)

/-- A write as it was made: the normal form of its path then, and the text. -/
structure Write where
  target : Path
  contents : String

def make (m : Memory) : Call → Memory
  | .write path contents => m.write path contents
  | .setCwd path => m.setCwd path

def after (calls : List Call) : Memory := calls.foldl make {}

def cwdAfter (cwd : Path) : List Call → Path
  | [] => cwd
  | .write _ _ :: rest => cwdAfter cwd rest
  | .setCwd path :: rest => cwdAfter (Path.normalize cwd path) rest

def writes (cwd : Path) : List Call → List Write
  | [] => []
  | .write path contents :: rest => ⟨Path.normalize cwd path, contents⟩ :: writes cwd rest
  | .setCwd path :: rest => writes (Path.normalize cwd path) rest

namespace Write

/-- Aimed at a place or below it. -/
def isWithin (w : Write) (place : List Component) : Bool := place.isPrefixOf w.target.components

def isBelow (w : Write) (place : List Component) : Bool :=
  w.isWithin place && w.target.components != place

/-- What a write leaves at a place that it is within. -/
def entryAt (w : Write) (place : List Component) : Entry :=
  if w.target.components = place then .file w.contents else .directory

end Write

def lastWrite? (ws : List Write) (place : List Component) : Option Write :=
  (ws.filter (·.isWithin place)).getLast?

/-! ## One write -/

section Step

variable {m : Memory} {place : List Component}

theorem lookup_put (m : Memory) (dir : Path) (entry : Entry) (place : List Component) :
    (m.put dir entry).entries.lookup place =
      if place = dir.components then some entry else m.entries.lookup place := by
  rw [put, List.lookup_cons]
  by_cases h : place = dir.components
  · simp [h]
  · simp [h, beq_eq_false_iff_ne.2 h]

theorem lookup_foldl_put (m : Memory) (dirs : List Path) (place : List Component) :
    (dirs.foldl (fun m dir => m.put dir .directory) m).entries.lookup place =
      if place ∈ dirs.map Path.components then some .directory else m.entries.lookup place := by
  induction dirs generalizing m with
  | nil => rfl
  | cons dir rest ih =>
    rw [List.foldl_cons, ih, lookup_put]
    by_cases hrest : place ∈ rest.map Path.components
    · simp [hrest]
    · by_cases hdir : place = dir.components
      · simp [hdir]
      · simp [hrest, hdir]

theorem mem_entries_foldl_put {m : Memory} {dirs : List Path} {stored : List Component × Entry}
    (h : stored ∈ (dirs.foldl (fun m dir => m.put dir .directory) m).entries) :
    stored.1 ∈ dirs.map Path.components ∨ stored ∈ m.entries := by
  induction dirs generalizing m with
  | nil => exact .inr h
  | cons dir rest ih =>
    rcases ih h with hrest | hput
    · exact .inl (by simp [hrest])
    · rcases List.mem_cons.1 hput with rfl | hmem
      · exact .inl (by simp)
      · exact .inr hmem

theorem cwd_foldl_put (m : Memory) (dirs : List Path) :
    (dirs.foldl (fun m dir => m.put dir .directory) m).cwd = m.cwd := by
  induction dirs generalizing m with
  | nil => rfl
  | cons dir rest ih => exact ih (m.put dir .directory)

@[simp] theorem cwd_write (m : Memory) (path : Path) (contents : String) :
    (m.write path contents).cwd = m.cwd := cwd_foldl_put m _

theorem plain_absolute (h : Plain m.cwd.components) (path : Path) :
    Plain (m.absolute path).components := Path.plain_normalize (.inl h)

theorem mem_parents_iff (h : Plain m.cwd.components) (path : Path) :
    place ∈ (m.absolute path).parents.map Path.components ↔
      Plain place ∧ place <+: (m.absolute path).components ∧
        place ≠ (m.absolute path).components := by
  rw [Path.components_parents]
  exact Path.mem_above_iff (plain_absolute h path)

/-- A write decides what is at its target and above it, and nothing else. -/
theorem lookup_write (h : Plain m.cwd.components) (path : Path) (contents : String)
    (hplace : Plain place) :
    let w : Write := ⟨m.absolute path, contents⟩
    (m.write path contents).entries.lookup place =
      if w.isWithin place then some (w.entryAt place) else m.entries.lookup place := by
  intro w
  have hwithin : w.isWithin place = true ↔ place <+: (m.absolute path).components :=
    List.isPrefixOf_iff_prefix
  rw [write, lookup_put, lookup_foldl_put]
  by_cases htarget : place = (m.absolute path).components
  · have hprefix : w.isWithin place = true := hwithin.2 (htarget ▸ List.prefix_refl _)
    have hentry : w.entryAt place = .file contents := if_pos htarget.symm
    rw [if_pos htarget, if_pos hprefix, hentry]
  · rw [if_neg htarget]
    by_cases habove : place <+: (m.absolute path).components
    · have hentry : w.entryAt place = .directory := if_neg (Ne.symm htarget)
      rw [if_pos ((mem_parents_iff h path).2 ⟨hplace, habove, htarget⟩), if_pos (hwithin.2 habove),
        hentry]
    · have hnot : place ∉ (m.absolute path).parents.map Path.components :=
        fun hmem => habove ((mem_parents_iff h path).1 hmem).2.1
      rw [if_neg hnot, if_neg (fun hw => habove (hwithin.1 hw))]

theorem plain_of_mem_write (h : Plain m.cwd.components) {path : Path} {contents : String}
    (hstored : ∀ stored ∈ m.entries, Plain stored.1) :
    ∀ stored ∈ (m.write path contents).entries, Plain stored.1 := by
  intro stored hmem
  rcases List.mem_cons.1 hmem with rfl | hmem
  · exact plain_absolute h path
  · rcases mem_entries_foldl_put hmem with habove | hmem
    · exact ((mem_parents_iff h path).1 habove).1
    · exact hstored stored hmem

end Step

/-! ## Runs -/

theorem cwd_foldl_make (m : Memory) (calls : List Call) :
    (calls.foldl make m).cwd = cwdAfter m.cwd calls := by
  induction calls generalizing m with
  | nil => rfl
  | cons call rest ih =>
    cases call with
    | write path contents =>
      have hrest := ih (m.write path contents)
      rw [cwd_write] at hrest
      exact hrest
    | setCwd path => exact ih (m.setCwd path)

theorem plain_cwdAfter {cwd : Path} (h : Plain cwd.components) (calls : List Call) :
    Plain (cwdAfter cwd calls).components := by
  induction calls generalizing cwd with
  | nil => exact h
  | cons call rest ih =>
    cases call with
    | write path contents => exact ih h
    | setCwd path => exact ih (Path.plain_normalize (.inl h))

theorem plain_of_mem_foldl_make {m : Memory} (h : Plain m.cwd.components)
    (hstored : ∀ stored ∈ m.entries, Plain stored.1) (calls : List Call) :
    ∀ stored ∈ (calls.foldl make m).entries, Plain stored.1 := by
  induction calls generalizing m with
  | nil => exact hstored
  | cons call rest ih =>
    cases call with
    | write path contents =>
      have hcwd : Plain (m.write path contents).cwd.components := by
        rw [cwd_write]
        exact h
      exact ih hcwd (plain_of_mem_write h hstored)
    | setCwd path => exact ih (plain_absolute h path) hstored

theorem lastWrite?_cons (w : Write) (ws : List Write) (place : List Component) :
    lastWrite? (w :: ws) place =
      (lastWrite? ws place).or (if w.isWithin place then some w else none) := by
  rw [lastWrite?, List.filter_cons]
  split
  · rw [List.getLast?_cons, lastWrite?]
    cases (ws.filter (·.isWithin place)).getLast? <;> rfl
  · rw [Option.or_none, lastWrite?]

/-- What is at a place is what the last write at it or below has left there. -/
theorem lookup_foldl_make {m : Memory} (h : Plain m.cwd.components) (calls : List Call)
    {place : List Component} (hplace : Plain place) :
    (calls.foldl make m).entries.lookup place =
      ((lastWrite? (writes m.cwd calls) place).map (·.entryAt place)).or
        (m.entries.lookup place) := by
  induction calls generalizing m with
  | nil => rfl
  | cons call rest ih =>
    cases call with
    | write path contents =>
      have hcwd : Plain (m.write path contents).cwd.components := by
        rw [cwd_write]
        exact h
      have hrest := ih hcwd
      rw [cwd_write, lookup_write h path contents hplace] at hrest
      rw [List.foldl_cons, make, hrest, writes, lastWrite?_cons]
      -- This write only counts where none of the rest does.
      cases lastWrite? (writes m.cwd rest) place with
      | some w => rfl
      | none =>
        simp only [Option.map_none, Option.none_or]
        split <;> simp_all [absolute]
    | setCwd path => exact ih (plain_absolute h path)

theorem plain_cwd_after (calls : List Call) : Plain (after calls).cwd.components := by
  have hroot : Plain ({} : Memory).cwd.components := Path.plain_root
  rw [after, cwd_foldl_make]
  exact plain_cwdAfter hroot calls

theorem lookup_after (calls : List Call) {place : List Component} (hplace : Plain place) :
    (after calls).entries.lookup place =
      (lastWrite? (writes Path.root calls) place).map (·.entryAt place) := by
  have hroot : Plain ({} : Memory).cwd.components := Path.plain_root
  have hlookup := lookup_foldl_make hroot calls hplace
  exact hlookup.trans (Option.or_none)

/-- What a memory answers about a path, given the last write at its place or below. -/
def Answers (m : Memory) (p : Path) : Option Write → Prop
  | none =>
    m.isFile p = false ∧ m.isDir p = false ∧
      m.read p = .error .missing ∧ m.canonicalize p = .error .missing
  | some w =>
    m.canonicalize p = .ok (m.absolute p) ∧
      if w.target.components = (m.absolute p).components then
        m.isFile p = true ∧ m.isDir p = false ∧ m.read p = .ok w.contents
      else
        m.isFile p = false ∧ m.isDir p = true ∧ m.read p = .error .directory

theorem answers_of_lookup {m : Memory} {p : Path} {last : Option Write}
    (h : m.entries.lookup (m.absolute p).components =
      last.map (·.entryAt (m.absolute p).components)) : m.Answers p last := by
  have hentry : m.entry? p = last.map (·.entryAt (m.absolute p).components) := h
  cases last with
  | none =>
    have hnone : m.entry? p = none := hentry
    simp [Answers, isFile, isDir, read, canonicalize, hnone]
  | some w =>
    by_cases htarget : w.target.components = (m.absolute p).components
    · have hfile : m.entry? p = some (.file w.contents) := by
        simpa [Write.entryAt, htarget] using hentry
      simp [Answers, isFile, isDir, read, canonicalize, hfile, htarget]
    · have hdirectory : m.entry? p = some .directory := by
        simpa [Write.entryAt, htarget] using hentry
      simp [Answers, isFile, isDir, read, canonicalize, hdirectory, htarget]

structure Told (calls : List Call) (m : Memory) : Prop where
  cwd : m.cwd = cwdAfter Path.root calls
  plain_cwd : Plain m.cwd.components
  plain_stored : ∀ stored ∈ m.entries, Plain stored.1
  answers : ∀ p, m.Answers p (lastWrite? (writes Path.root calls) (m.absolute p).components)

theorem told_after (calls : List Call) : Told calls (after calls) := by
  have hroot : Plain ({} : Memory).cwd.components := Path.plain_root
  have hcwd : (after calls).cwd = cwdAfter Path.root calls := cwd_foldl_make {} calls
  exact {
    cwd := hcwd
    plain_cwd := plain_cwd_after calls
    plain_stored := plain_of_mem_foldl_make hroot (by simp) calls
    answers := fun p =>
      answers_of_lookup (lookup_after calls (plain_absolute (plain_cwd_after calls) p)) }

/-! ## Above an entry -/

/-- A write was aimed at a place after one below it, and none below it since. -/
def Overwritten (ws : List Write) (place : List Component) : Prop :=
  ∃ earlier w later, ws = earlier ++ w :: later ∧ w.target.components = place ∧
    (∃ v ∈ earlier, v.isBelow place = true) ∧ ∀ v ∈ later, v.isBelow place = false

theorem Write.isWithin_of_eq {w : Write} {place : List Component}
    (h : w.target.components = place) : w.isWithin place = true :=
  List.isPrefixOf_iff_prefix.2 (h ▸ List.prefix_refl _)

theorem Write.isBelow_iff {w : Write} {place : List Component} :
    w.isBelow place = true ↔ w.isWithin place = true ∧ w.target.components ≠ place := by
  simp [isBelow]

/-- A write at an entry or below it is below all places above the entry. -/
theorem Write.isBelow_of_isWithin {w : Write} {place above : List Component}
    (h : w.isWithin place = true) (habove : above <+: place) (hne : above ≠ place) :
    w.isBelow above = true := by
  have hprefix : place <+: w.target.components := List.isPrefixOf_iff_prefix.1 h
  refine isBelow_iff.2 ⟨List.isPrefixOf_iff_prefix.2 (habove.trans hprefix), ?_⟩
  intro heq
  have hback : place <+: above := heq ▸ hprefix
  exact hne (habove.eq_of_length_le hback.length_le)

theorem exists_of_lastWrite? {ws : List Write} {place : List Component} {w : Write}
    (h : lastWrite? ws place = some w) :
    ∃ earlier later, ws = earlier ++ w :: later ∧ w.isWithin place = true ∧
      ∀ v ∈ later, v.isWithin place = false := by
  induction ws with
  | nil => cases h
  | cons first rest ih =>
    rw [lastWrite?_cons] at h
    cases hrest : lastWrite? rest place with
    | some last =>
      rw [hrest] at h
      cases h
      obtain ⟨earlier, later, heq, hwithin, hlater⟩ := ih hrest
      exact ⟨first :: earlier, later, by rw [heq, List.cons_append], hwithin, hlater⟩
    | none =>
      rw [hrest, Option.none_or] at h
      split at h
      · rename_i hfirst
        cases h
        refine ⟨[], rest, rfl, hfirst, ?_⟩
        intro v hv
        have hnone : rest.filter (·.isWithin place) = [] := List.getLast?_eq_none_iff.1 hrest
        simpa using List.filter_eq_nil_iff.1 hnone v hv
      · cases h

/-- The last write at a place or below is aimed at it just if the place is overwritten, once there
was a write below. -/
theorem overwritten_iff {ws : List Write} {place : List Component} {last v : Write}
    (hlast : lastWrite? ws place = some last) (hv : v ∈ ws) (hbelow : v.isBelow place = true) :
    Overwritten ws place ↔ last.target.components = place := by
  obtain ⟨earlier, later, rfl, hwithin, hlater⟩ := exists_of_lastWrite? hlast
  constructor
  · rintro ⟨earlier', w, later', heq, hw, -, hnone⟩
    -- Neither of `w` and `last` comes before the other, unless `last` is aimed at the place.
    have hmem : last ∈ w :: later' ∨ w ∈ later := by
      rcases List.append_eq_append_iff.1 heq with ⟨front, rfl, hcut⟩ | ⟨front, rfl, hcut⟩
      · rcases List.cons_eq_append_iff.1 hcut with ⟨-, hsame⟩ | ⟨rest, rfl, hlast⟩
        · exact .inl (by simp [hsame])
        · exact .inr (by simp [hlast])
      · exact .inl (by simp [hcut])
    rcases hmem with hmem | hmem
    · rcases List.mem_cons.1 hmem with rfl | hmem
      · exact hw
      · by_contra hne
        have hlastbelow := Write.isBelow_iff.2 ⟨hwithin, hne⟩
        rw [hnone last hmem] at hlastbelow
        cases hlastbelow
    · have hoff := hlater w hmem
      rw [Write.isWithin_of_eq hw] at hoff
      cases hoff
  · intro htarget
    have hne : v ≠ last := by
      rintro rfl
      exact (Write.isBelow_iff.1 hbelow).2 htarget
    have hnotlater : v ∉ later := by
      intro hmem
      have hoff := hlater v hmem
      rw [(Write.isBelow_iff.1 hbelow).1] at hoff
      cases hoff
    have hearlier : v ∈ earlier := by
      rcases List.mem_append.1 hv with hmem | hmem
      · exact hmem
      · rcases List.mem_cons.1 hmem with heq | hmem
        · exact absurd heq hne
        · exact absurd hmem hnotlater
    refine ⟨earlier, last, later, rfl, htarget, ⟨v, hearlier, hbelow⟩, ?_⟩
    intro u hu
    simp [Write.isBelow, hlater u hu]

theorem not_overwritten_of_pairwise {ws : List Write} {place : List Component}
    (h : ws.Pairwise fun v w => v.isBelow w.target.components = false) :
    ¬Overwritten ws place := by
  rintro ⟨earlier, w, later, rfl, rfl, ⟨v, hv, hbelow⟩, -⟩
  have hoff := (List.pairwise_append.1 h).2.2 v hv w (by simp)
  rw [hbelow] at hoff
  cases hoff

/-- Above an entry there are directories, but for places that were written over later. -/
theorem isDir_of_mem_parents (calls : List Call) {p dir : Path} {entry : Entry}
    (hp : entry? (after calls) p = some entry)
    (hdir : dir ∈ ((after calls).absolute p).parents) :
    ((after calls).isDir dir = true ∨ (after calls).isFile dir = true) ∧
      ((after calls).isFile dir = true ↔
        Overwritten (writes Path.root calls) dir.components) ∧
      ((writes Path.root calls).Pairwise (fun v w => v.isBelow w.target.components = false) →
        (after calls).isDir dir = true) := by
  have hcwd := plain_cwd_after calls
  obtain ⟨hplain, hprefix, hne⟩ := (mem_parents_iff hcwd p).1 (List.mem_map_of_mem hdir)
  have hself : ((after calls).absolute dir).components = dir.components :=
    Path.components_normalize_of_plain _ hplain
  -- The entry comes from a write at its place or below, so there is one below the directory.
  have hlookup : entry? (after calls) p = _ := lookup_after calls (plain_absolute hcwd p)
  rw [hlookup, Option.map_eq_some_iff] at hp
  obtain ⟨v, hlastv, -⟩ := hp
  obtain ⟨_, _, heq, hwithin, -⟩ := exists_of_lastWrite? hlastv
  have hv : v ∈ writes Path.root calls := by simp [heq]
  have hbelow : v.isBelow dir.components = true := Write.isBelow_of_isWithin hwithin hprefix hne
  have hmem : v ∈ (writes Path.root calls).filter (·.isWithin dir.components) :=
    List.mem_filter.2 ⟨hv, (Write.isBelow_iff.1 hbelow).1⟩
  obtain ⟨last, hlast⟩ : ∃ last, lastWrite? (writes Path.root calls) dir.components = some last :=
    ⟨_, List.getLast?_eq_some_getLast (List.ne_nil_of_mem hmem)⟩
  have hoverwritten := overwritten_iff hlast hv hbelow
  have hanswers : (after calls).Answers dir (some last) := by
    refine answers_of_lookup ?_
    rw [hself, lookup_after calls hplain, hlast]
  obtain ⟨-, hanswers⟩ := hanswers
  rw [hself] at hanswers
  by_cases htarget : last.target.components = dir.components
  · rw [if_pos htarget] at hanswers
    obtain ⟨hfile, -, -⟩ := hanswers
    have hover := hoverwritten.2 htarget
    refine ⟨.inr hfile, by simp [hfile, hover], ?_⟩
    intro hpairwise
    exact absurd hover (not_overwritten_of_pairwise hpairwise)
  · rw [if_neg htarget] at hanswers
    obtain ⟨hfile, hisDir, -⟩ := hanswers
    have hover : ¬Overwritten (writes Path.root calls) dir.components :=
      fun h => htarget (hoverwritten.1 h)
    exact ⟨.inl hisDir, by simp [hfile, hover], fun _ => hisDir⟩

/-- As in a run that writes `/a/b` and then `/a`. -/
def overwriting : List Call := [.write (Path.ofText "/a/b") "x", .write (Path.ofText "/a") "y"]

theorem isDir_of_mem_parents_overwriting :
    entry? (after overwriting) (Path.ofText "/a/b") = some (.file "x") ∧
      (after overwriting).isDir (Path.ofText "/") = true ∧
      (after overwriting).isFile (Path.ofText "/a") = true ∧
      Overwritten (writes Path.root overwriting) (Path.ofText "/a").components := by
  have hb : entry? (after overwriting) (Path.ofText "/a/b") = some (.file "x") := by decide
  have hroot : Path.ofText "/" ∈ ((after overwriting).absolute (Path.ofText "/a/b")).parents := by
    decide
  have ha : Path.ofText "/a" ∈ ((after overwriting).absolute (Path.ofText "/a/b")).parents := by
    decide
  have habove := isDir_of_mem_parents overwriting hb hroot
  have hover := isDir_of_mem_parents overwriting hb ha
  have hfile : (after overwriting).isFile (Path.ofText "/a") = true := by decide
  exact ⟨hb, habove.1.resolve_right (by decide), hfile, hover.2.1.1 hfile⟩

theorem not_isDir_of_mem_parents :
    ¬∀ (calls : List Call) (p dir : Path) (entry : Entry),
      entry? (after calls) p = some entry → dir ∈ ((after calls).absolute p).parents →
        (after calls).isDir dir = true := by
  intro h
  have hdir := h overwriting (Path.ofText "/a/b") (Path.ofText "/a") (.file "x") (by decide)
    (by decide)
  revert hdir
  decide

end Memory
end ImportMacros
