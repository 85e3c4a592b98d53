import ImportMacros.Proofs.Explorer

/-!
# ImportMacros.Proofs.Precedence

Which file decides a search. `candidates` are the files that a search may look at: the places of
the nearest directory first, those of the directories above after them. Most are passed over
(`Candidate.IsSkipped`); the first one that is not has the last word, be it a configuration or an
error (`Candidate.Decides`), and what stands at the candidates after it makes no difference
(`search_decided`).
-/

namespace ImportMacros
namespace Config

structure Candidate where
  dir : Path
  place : Place
deriving DecidableEq, Repr

/-- All files that a search from a directory may look at, in order. -/
def candidates (dir : Path) : List Candidate :=
  dir.ancestors.flatMap fun above => places.map (Candidate.mk above)

namespace Candidate

def path (c : Candidate) : Path := c.dir.join (Path.ofText c.place.name)

def isScript (c : Candidate) : Bool := ".js".toList.isSuffixOf c.place.name.toList

/-- What a text in the file holds, if it is of the format that goes with the name. -/
def read? (c : Candidate) (text : String) : Option Value :=
  if c.place.name = "package.json" then Json.read? text
  else if c.place.name = ".babel-plugin-macrosrc" then (Json5.read? text).or (Yaml.read? text)
  else if c.place.name = ".babel-plugin-macrosrc.json" then Json.read? text
  else Yaml.read? text

def config? (c : Candidate) (value : Value) : Option Value :=
  if c.place.name = "package.json" then value.field? "babelMacros" else some value

/-- The search goes on after the file. -/
inductive IsSkipped (fs : FileSystem) (c : Candidate) : Prop where
  | noFile : fs.isFile c.path = false → IsSkipped fs c
  | blank {text : String} :
      c.isScript = false → fs.read c.path = .ok text → Text.isBlankText text = true →
      IsSkipped fs c
  | unconfigured {text : String} {value : Value} :
      c.isScript = false → fs.read c.path = .ok text → c.read? text = some value →
      c.config? value = none → IsSkipped fs c

/-- The search ends at the file, and how. -/
inductive Decides (fs : FileSystem) (c : Candidate) : Except Error (Option Loaded) → Prop where
  | script : fs.isFile c.path = true → c.isScript = true →
      Decides fs c (.error (.script c.path))
  | unreadable {error : IoError} :
      fs.isFile c.path = true → c.isScript = false → fs.read c.path = .error error →
      Decides fs c (.error (.unreadable error))
  | malformed {text : String} :
      fs.isFile c.path = true → c.isScript = false → fs.read c.path = .ok text →
      Text.isBlankText text = false → c.read? text = none →
      Decides fs c (.error (.malformed c.path text))
  | found {text : String} {value config : Value} :
      fs.isFile c.path = true → c.isScript = false → fs.read c.path = .ok text →
      Text.isBlankText text = false → c.read? text = some value → c.config? value = some config →
      Decides fs c (.ok (some ⟨c.path, config⟩))

/-- Two file systems have the same file. -/
def AgreesOn (fs fs' : FileSystem) (c : Candidate) : Prop :=
  fs'.isFile c.path = fs.isFile c.path ∧
    (fs.isFile c.path = true → fs'.read c.path = fs.read c.path)

variable {fs fs' : FileSystem} {c : Candidate}

/-! ## One candidate -/

def own (fs : FileSystem) (c : Candidate) : Except Error (Option Loaded) :=
  firstIn fs c.dir [c.place]

theorem isScript_of_mem (h : c.place ∈ places) :
    c.isScript = decide (c.place.format = .script) := by
  have hplaces : ∀ place ∈ places,
      ".js".toList.isSuffixOf place.name.toList = decide (place.format = .script) := by
    decide
  exact hplaces c.place h

theorem format_of_mem (h : c.place ∈ places) (hscript : c.place.format ≠ .script) :
    c.place.format.read? = c.read? ∧ c.place.format.pick = c.config? := by
  obtain ⟨dir, place⟩ := c
  simp only [places, List.mem_cons, List.not_mem_nil, or_false] at h
  rcases h with rfl | rfl | rfl | rfl | rfl | rfl | rfl <;>
    first | exact ⟨rfl, rfl⟩ | exact absurd rfl hscript

theorem own_of_not_isFile (h : fs.isFile c.path = false) : c.own fs = .ok none := by
  have hlook : c.place.lookIn fs c.dir = .ok none := by
    rw [Place.lookIn]
    exact if_neg (by simpa [path] using h)
  rw [own, firstIn, hlook]
  rfl

theorem own_of_isFile (h : fs.isFile c.path = true) :
    c.own fs = (c.place.load fs c.path).map (·.map (Loaded.mk c.path)) := by
  have hlook : c.place.lookIn fs c.dir = c.place.load fs c.path := by
    rw [Place.lookIn]
    exact if_pos h
  rw [own, firstIn, hlook]
  rcases c.place.load fs c.path with error | _ | config <;> rfl

theorem own_of_isSkipped (hplace : c.place ∈ places) (h : c.IsSkipped fs) :
    c.own fs = .ok none := by
  cases hfile : fs.isFile c.path with
  | false => exact own_of_not_isFile hfile
  | true =>
    have hformat : c.isScript = false → c.place.format ≠ .script := by
      intro hscript
      simpa [isScript_of_mem hplace] using hscript
    rw [own_of_isFile hfile, Place.load]
    cases h with
    | noFile hno =>
      rw [hfile] at hno
      cases hno
    | blank hscript hread hblank =>
      rw [if_neg (hformat hscript), hread]
      simp only [hblank, if_true]
      rfl
    | unconfigured hscript hread hvalue hconfig =>
      obtain ⟨hparse, hpick⟩ := format_of_mem hplace (hformat hscript)
      rw [if_neg (hformat hscript), hread]
      simp only [hparse, hvalue, hpick, hconfig]
      split <;> rfl

theorem decides_of_not_isSkipped (hplace : c.place ∈ places) (h : ¬c.IsSkipped fs) :
    c.Decides fs (c.own fs) := by
  have hfile : fs.isFile c.path = true := by
    cases hfile : fs.isFile c.path with
    | true => rfl
    | false => exact absurd (.noFile hfile) h
  rw [own_of_isFile hfile, Place.load]
  cases hscript : c.isScript with
  | true =>
    rw [if_pos (by simpa [isScript_of_mem hplace] using hscript)]
    exact .script hfile hscript
  | false =>
    have hformat : c.place.format ≠ .script := by
      simpa [isScript_of_mem hplace] using hscript
    obtain ⟨hparse, hpick⟩ := format_of_mem hplace hformat
    rw [if_neg hformat]
    cases hread : fs.read c.path with
    | error error => exact .unreadable hfile hscript hread
    | ok text =>
      have hblank : Text.isBlankText text = false := by
        cases hblank : Text.isBlankText text with
        | false => rfl
        | true => exact absurd (.blank hscript hread hblank) h
      simp only [hblank, Bool.false_eq_true, if_false, hparse, hpick]
      cases hvalue : c.read? text with
      | none => exact .malformed hfile hscript hread hblank hvalue
      | some value =>
        cases hconfig : c.config? value with
        | none => exact absurd (.unconfigured hscript hread hvalue hconfig) h
        | some config =>
          simp only [hconfig]
          exact .found hfile hscript hread hblank hvalue hconfig

theorem Decides.ne_none {outcome : Except Error (Option Loaded)} (h : c.Decides fs outcome) :
    outcome ≠ .ok none := by
  cases h <;> exact nofun

theorem isSkipped_iff (hplace : c.place ∈ places) : c.IsSkipped fs ↔ c.own fs = .ok none := by
  refine ⟨own_of_isSkipped hplace, fun hown => Classical.byContradiction fun h => ?_⟩
  exact (decides_of_not_isSkipped hplace h).ne_none hown

theorem AgreesOn.own (h : c.AgreesOn fs fs') : c.own fs' = c.own fs := by
  cases hfile : fs.isFile c.path with
  | false => rw [own_of_not_isFile hfile, own_of_not_isFile (h.1.trans hfile)]
  | true =>
    rw [own_of_isFile hfile, own_of_isFile (h.1.trans hfile), Place.load, Place.load, h.2 hfile]

end Candidate

/-! ## Candidates in a row -/

section Row

open Explorer (orAbove fresh fresh_cons search_fst)

variable {fs fs' : FileSystem}

def decided (fs : FileSystem) : List Candidate → Except Error (Option Loaded)
  | [] => .ok none
  | c :: rest => orAbove (c.own fs) (decided fs rest)

theorem decided_append (front back : List Candidate) :
    decided fs (front ++ back) = orAbove (decided fs front) (decided fs back) := by
  induction front with
  | nil => rfl
  | cons c rest ih =>
    rw [List.cons_append, decided, decided, ih]
    rcases c.own fs with error | _ | loaded <;> rfl

theorem firstIn_eq_decided (fs : FileSystem) (dir : Path) (ps : List Place) :
    firstIn fs dir ps = decided fs (ps.map (Candidate.mk dir)) := by
  induction ps with
  | nil => rfl
  | cons place rest ih =>
    rw [List.map_cons, decided, ← ih, Candidate.own, firstIn, firstIn]
    rcases place.lookIn fs dir with error | _ | config <;> rfl

theorem fresh_eq_decided (fs : FileSystem) (dirs : List Path) :
    fresh fs dirs = decided fs (dirs.flatMap fun dir => places.map (Candidate.mk dir)) := by
  induction dirs with
  | nil => rfl
  | cons dir rest ih =>
    rw [List.flatMap_cons, decided_append, fresh_cons, ih, inDirectory, firstIn_eq_decided]

theorem search_eq_decided (fs : FileSystem) (dir : Path) :
    (Explorer.search fs {} dir).1 = decided fs (candidates dir) := by
  rw [search_fst]
  exact fresh_eq_decided fs dir.ancestors

theorem decided_eq_none_iff {cs : List Candidate} :
    decided fs cs = .ok none ↔ ∀ c ∈ cs, c.own fs = .ok none := by
  induction cs with
  | nil => simp [decided]
  | cons c rest ih =>
    rw [decided, List.forall_mem_cons, ← ih]
    rcases c.own fs with error | _ | loaded <;> simp [orAbove]

theorem decided_of_first {front back : List Candidate} {c : Candidate}
    (hfront : ∀ b ∈ front, b.own fs = .ok none) (hc : c.own fs ≠ .ok none) :
    decided fs (front ++ c :: back) = c.own fs := by
  rw [decided_append, decided_eq_none_iff.2 hfront, orAbove, decided]
  rcases hown : c.own fs with error | _ | loaded
  · rfl
  · exact absurd hown hc
  · rfl

theorem place_of_mem_candidates {dir : Path} {c : Candidate} (h : c ∈ candidates dir) :
    c.place ∈ places := by
  obtain ⟨above, -, h⟩ := List.mem_flatMap.1 h
  obtain ⟨place, hplace, rfl⟩ := List.mem_map.1 h
  exact hplace

/-- A search with a fresh explorer finds nothing just if all candidates are passed over. Else the
first one that is not decides, whatever stands at those after it. -/
theorem search_decided (fs : FileSystem) (dir : Path) :
    ((Explorer.search fs {} dir).1 = .ok none ↔ ∀ c ∈ candidates dir, c.IsSkipped fs) ∧
      ∀ front c back, candidates dir = front ++ c :: back → (∀ b ∈ front, b.IsSkipped fs) →
        ¬c.IsSkipped fs →
        c.Decides fs (Explorer.search fs {} dir).1 ∧
          ∀ fs', (∀ b ∈ front ++ [c], b.AgreesOn fs fs') →
            (Explorer.search fs' {} dir).1 = (Explorer.search fs {} dir).1 := by
  have hplaces : ∀ c ∈ candidates dir, c.place ∈ places := fun _ => place_of_mem_candidates
  simp only [search_eq_decided]
  refine ⟨?_, fun front c back hsplit hfront hc => ?_⟩
  · rw [decided_eq_none_iff]
    exact forall₂_congr fun c hmem => (Candidate.isSkipped_iff (hplaces c hmem)).symm
  · rw [hsplit] at hplaces ⊢
    have hplace : c.place ∈ places := hplaces c (by simp)
    have hskipped : ∀ b ∈ front, b.own fs = .ok none := fun b hb =>
      Candidate.own_of_isSkipped (hplaces b (by simp [hb])) (hfront b hb)
    have hdecides := Candidate.decides_of_not_isSkipped hplace hc
    rw [decided_of_first hskipped hdecides.ne_none]
    refine ⟨hdecides, fun fs' hagrees => ?_⟩
    have hown : ∀ b ∈ front ++ [c], b.own fs' = b.own fs := fun b hb => (hagrees b hb).own
    have hskipped' : ∀ b ∈ front, b.own fs' = .ok none := fun b hb =>
      (hown b (by simp [hb])).trans (hskipped b hb)
    rw [decided_of_first hskipped' (by rw [hown c (by simp)]; exact hdecides.ne_none)]
    exact hown c (by simp)

/-- A script in a directory, and above it a configuration. -/
def shadowed : Memory :=
  (({} : Memory).write (Path.ofText "/.babel-plugin-macrosrc.json") "\x7b\x7d").write
    (Path.ofText "/a/babel-plugin-macros.config.js") ""

theorem search_shadowed :
    let script : Candidate := ⟨Path.ofText "/a", ⟨"babel-plugin-macros.config.js", .script⟩⟩
    let front := (places.take 6).map (Candidate.mk (Path.ofText "/a"))
    (∀ b ∈ front, b.IsSkipped shadowed.fileSystem) ∧ ¬script.IsSkipped shadowed.fileSystem ∧
      script.Decides shadowed.fileSystem
        (Explorer.search shadowed.fileSystem {} (Path.ofText "/a")).1 := by
  intro script front
  have hfront : ∀ b ∈ front, b.IsSkipped shadowed.fileSystem := by
    have hfiles : ∀ b ∈ front, shadowed.fileSystem.isFile b.path = false := by decide
    exact fun b hb => .noFile (hfiles b hb)
  have hscript : ¬script.IsSkipped shadowed.fileSystem := by
    have hown : script.own shadowed.fileSystem = .error (.script script.path) := by
      rw [Candidate.own_of_isFile (by decide)]
      rfl
    rw [Candidate.isSkipped_iff (by decide), hown]
    exact nofun
  have hdecided := (search_decided shadowed.fileSystem (Path.ofText "/a")).2
  exact ⟨hfront, hscript, (hdecided front script _ rfl hfront hscript).1⟩

end Row
end Config
end ImportMacros
