import ImportMacros.Proofs.Look

/-!
# ImportMacros.Proofs.Finder

What a finder finds. Modules are named in many ways, and every one of them ends in a look at a path
as a file (`Finder.finds_asFile`), also where the path comes from what a package says of itself. So
through a faithful sight, whatever is found is where some file really is (`Finder.gives_find`).

There is one lemma for each function of the search. Those that only lead to a path that is looked
at later, such as what a package exports, do nothing but look around (`Rules.Runs`).
-/

namespace ImportMacros
namespace Resolve

variable {m : Type → Type} [Monad m] {r : Rules m} {fs : FileSystem}

open Rules (gives_cases gives_cond gives_ite gives_lift gives_throw gives_throw_bind finds_none
  finds_some runs_pure)

/-! ## What is seen -/

theorem at?_eq_file_iff {p : Path} : EntryKind.at? fs p = some .file ↔ fs.isFile p = true := by
  simp only [EntryKind.at?, Metadata.follow, Metadata.ofEntry]
  split
  · rename_i hfile
    simp [hfile, Except.toOption]
  · rename_i hfile
    split <;> simp [hfile, Except.toOption]

namespace Sight.Faithful

variable {s : Sight m} (hs : s.Faithful r fs)
include hs

theorem isFile (p : Path) :
    r.Gives (s.isFile p) fun isFile => isFile = true → fs.isFile p = true := by
  refine r.gives_bind (hs.kind? p) fun kind hkind => r.gives_pure fun hfile => ?_
  rw [hkind, beq_iff_eq] at hfile
  exact at?_eq_file_iff.1 hfile

theorem isDir (p : Path) : r.Runs (s.isDir p) :=
  r.gives_bind (hs.kind? p) fun _ _ => runs_pure _

theorem scopes (ps : List Path) : r.Runs (s.scopes ps) := by
  fun_induction Sight.scopes s ps with
  | case1 => exact runs_pure _
  | case2 p => exact runs_pure _
  | case3 p above _ ih => exact gives_cond (hs.isDir p) (runs_pure _) ih

theorem nearest (p : Path) : r.look.Runs (s.nearest p) := by
  refine r.look.gives_bind (gives_lift (hs.scopes p.ancestors)) fun dirs _ => ?_
  have hpackage (dir : Path) := Rules.finds_of_runs (hs.package dir)
  exact r.look.gives_mono (Rules.finds_firstOf hpackage dirs) fun _ _ => trivial

end Sight.Faithful

/-! ## What packages say -/

namespace Target

/-- If other packages can be asked, they are asked by the rules. -/
def Asks (r : Rules m) (other : Option (String → Look m (Option Path))) : Prop :=
  ∀ ask, other = some ask → ∀ name, r.look.Runs (ask name)

theorem asks_none : Asks r none := nofun

theorem runs_ofText {g : Ground m} (hother : Asks r g.other) (target : List Char) :
    r.look.Runs (ofText g target) := by
  have hof {α : Type} (result : Except ResolveError α) : r.look.Runs (Look.of result) :=
    Rules.gives_look_of fun _ _ => trivial
  unfold ofText
  split
  · refine r.look.gives_bind (hof _) fun text _ => ?_
    exact r.look.gives_bind (hof _) fun p _ => runs_pure _
  · split
    · exact gives_throw _
    · rename_i ask hask
      refine gives_ite (gives_throw_bind _ _) ?_
      exact r.look.gives_bind (hof _) fun text _ => hother ask hask _

theorem runs_resolve {g : Ground m} (hother : Asks r g.other) (target : Value) :
    r.look.Runs (resolve g target) := by
  refine resolve.induct (fun target => r.look.Runs (resolve g target))
    (fun targets => r.look.Runs (ofAlternatives g targets))
    (fun conditions => r.look.Runs (ofConditions g conditions))
    ?text ?conditions ?nothing ?alternatives ?other ?last ?alternative ?unmet ?default ?late ?unlike
    target
  case text =>
    intro target
    rw [resolve]
    exact runs_ofText hother _
  case conditions =>
    intro conditions ih
    rw [resolve]
    exact ih
  case nothing =>
    rw [resolve]
    exact gives_throw _
  case alternatives =>
    intro target rest ih
    rw [resolve]
    exact ih
  case other =>
    intro target htext hconditions hnothing halternatives
    rw [resolve.eq_def]
    split
    · exact (htext _ rfl).elim
    · exact (hconditions _ rfl).elim
    · exact (hnothing rfl).elim
    · exact (halternatives _ _ rfl).elim
    · exact runs_pure _
  case last =>
    rw [ofAlternatives]
    exact runs_pure _
  case alternative =>
    intro target rest htarget hrest
    rw [ofAlternatives]
    have hfirst : r.look.Runs (tryCatch (resolve g target) fun _ => return none) :=
      Rules.gives_tryCatch htarget fun _ => runs_pure none
    exact gives_cases (Rules.finds_of_runs hfirst) hrest fun _ _ => runs_pure _
  case unmet =>
    rw [ofConditions]
    exact runs_pure _
  case default =>
    intro target rest hrest htarget
    rw [ofConditions, if_pos rfl, if_pos hrest]
    exact htarget
  case late =>
    intro target rest hrest
    rw [ofConditions, if_pos rfl, if_neg hrest]
    exact gives_throw _
  case unlike =>
    intro key target rest hkey ih
    rw [ofConditions, if_neg hkey]
    exact ih

theorem runs_lookup {other : Option (String → Look m (Option Path))} (hother : Asks r other)
    (dir : Path) (name : List Char) (keys : Fields) :
    r.look.Runs (lookup dir other name keys) := by
  refine gives_ite (runs_pure _) ?_
  simp only
  split
  · exact runs_resolve hother _
  · split
    · exact runs_resolve hother _
    · exact runs_pure _

theorem runs_exported (dir : Path) (exports : Value) (name : List Char) (hasSuffix : Bool) :
    r.look.Runs (exported dir exports name hasSuffix) := by
  have hlookup := Rules.finds_of_runs (runs_lookup (asks_none (r := r)) dir name exports.fields)
  refine gives_ite (gives_throw_bind _ _) ?_
  refine gives_ite (gives_throw_bind _ _) ?_
  simp only
  cases if name = ['.'] then main? exports else none with
  | some target =>
    refine gives_cases (Rules.finds_of_runs (runs_resolve asks_none target)) ?_
      fun path _ => runs_pure path
    exact gives_cases hlookup (gives_throw _) fun path _ => runs_pure path
  | none =>
    refine gives_cases (Rules.finds_of_runs (runs_pure none)) ?_ fun path _ => runs_pure path
    exact gives_cases hlookup (gives_throw _) fun path _ => runs_pure path

end Target

namespace Finder

variable {f : Finder m} (hf : f.sight.Faithful r fs)
include hf

/-! ## Files and directories -/

theorem finds_asFile (p : Path) : r.Finds (f.asFile p) fun q => fs.isFile q = true :=
  Rules.finds_findM? hf.isFile _

theorem finds_index (dir : Path) : r.Finds (f.index dir) fun q => fs.isFile q = true :=
  finds_asFile hf _

theorem finds_mainFile (dir : Path) (main : String) :
    r.Finds (f.mainFile dir main) fun q => fs.isFile q = true :=
  gives_cases (finds_asFile hf _) (finds_index hf _) fun _ h => finds_some h

theorem finds_asDirectory (dir : Path) :
    r.look.Finds (f.asDirectory dir) fun q => fs.isFile q = true := by
  have hindex := gives_lift (finds_index hf dir)
  refine r.look.gives_bind (hf.package dir) fun package _ => ?_
  cases package.bind (·.text? "main") with
  | some main =>
    exact gives_cases (gives_lift (finds_mainFile hf dir main)) hindex fun _ h => finds_some h
  | none => exact gives_cases finds_none hindex fun _ h => finds_some h

theorem finds_asFileOrDirectory (p : Path) (name : List Char) :
    r.look.Finds (f.asFileOrDirectory p name) fun q => fs.isFile q = true := by
  have hdirectory : r.look.Finds (do if ← f.sight.isDir p then f.asDirectory p else return none)
      fun q => fs.isFile q = true :=
    gives_cond (gives_lift (hf.isDir p)) (finds_asDirectory hf p) finds_none
  unfold asFileOrDirectory
  split
  · exact gives_cases finds_none hdirectory fun _ h => finds_some h
  · exact gives_cases (gives_lift (finds_asFile hf p)) hdirectory fun _ h => finds_some h

omit hf in
theorem gives_found {P : Path → Prop} {search : Look m (Option Path)}
    (h : r.look.Finds search P) : r.look.Gives (found search) P :=
  gives_cases h (gives_throw _) fun _ h => r.look.gives_pure h

theorem gives_relative (dir : Path) (name : List Char) :
    r.look.Gives (f.relative dir name) fun q => fs.isFile q = true :=
  gives_found (finds_asFileOrDirectory hf _ name)

omit hf in
theorem gives_parsed {P : Path → Prop} {go : List Char → Bool → Look m Path}
    (hgo : ∀ path hasSuffix, r.look.Gives (go path hasSuffix) P) (source : String) :
    r.look.Gives (parsed go source) P := by
  unfold parsed
  split
  · exact gives_throw _
  · split
    · exact Rules.gives_tryCatch (hgo _ _) fun _ => hgo _ _
    · exact hgo _ _

/-! ## Packages -/

theorem runs_moduleDirectory (dir : Path) (place : String) :
    r.Runs (f.moduleDirectory dir place) :=
  gives_ite (runs_pure _) (gives_cond (hf.isDir _) (runs_pure _) (runs_pure _))

theorem finds_fromExports (package : Option Package) (dir : Path) (sub : List Char)
    (hasSuffix : Bool) :
    r.look.Finds (f.fromExports package dir sub hasSuffix) fun q => fs.isFile q = true := by
  unfold fromExports
  split
  · exact finds_none
  · refine r.look.gives_bind (Target.runs_exported _ _ _ _) fun p _ => ?_
    exact r.look.gives_bind (gives_found (finds_asFileOrDirectory hf p [])) fun _ h => finds_some h

theorem finds_fromSelf (dir : Path) (name : List Char) (hasSuffix : Bool) :
    r.look.Finds (f.fromSelf dir name hasSuffix) fun q => fs.isFile q = true := by
  refine gives_cases (Rules.finds_of_runs (hf.nearest dir)) finds_none fun package _ => ?_
  simp only
  split
  · exact finds_none
  · exact r.look.gives_bind (gives_lift (hf.real _)) fun real _ => finds_fromExports hf _ _ _ _

theorem finds_fromModules (modules : Path) (name : List Char) (hasSuffix : Bool) :
    r.look.Finds (f.fromModules modules name hasSuffix) fun q => fs.isFile q = true := by
  have hplain := finds_asFileOrDirectory hf
    (follow modules (Path.ofText (String.ofList name))) name
  unfold fromModules
  generalize Source.splitPackage name = parts
  obtain ⟨packageName, sub⟩ := parts
  refine gives_cond (gives_lift (hf.isDir _)) ?_ (gives_ite finds_none (gives_ite ?_ hplain))
  · refine r.look.gives_bind (hf.package _) fun package _ => ?_
    exact gives_cases (finds_fromExports hf _ _ _ _) hplain fun _ h => finds_some h
  · split
    · exact gives_cond (gives_lift (hf.isDir _)) hplain finds_none
    · exact hplain

theorem finds_fromPlace (name : List Char) (hasSuffix : Bool) (place : String) (dir : Path) :
    r.look.Finds (f.fromPlace name hasSuffix place dir) fun q => fs.isFile q = true := by
  have hmodules (modules : Path) (_ : True) := finds_fromModules hf modules name hasSuffix
  have hdirectory := Rules.finds_of_runs (runs_moduleDirectory hf dir place)
  refine gives_cond (gives_lift (hf.isDir dir)) ?_ ?_
  · exact gives_cases (gives_lift hdirectory) finds_none hmodules
  · exact gives_cases finds_none finds_none hmodules

theorem gives_bare (dir : Path) (name : List Char) (hasSuffix : Bool) :
    r.look.Gives (f.bare dir name hasSuffix) fun q => fs.isFile q = true := by
  refine gives_cases (finds_fromSelf hf dir name hasSuffix) ?_ fun _ h => r.look.gives_pure h
  exact gives_found (Rules.finds_firstOf (fun _ => finds_fromPlace hf _ _ _ _) _)

theorem runs_fromOtherModules (modules : Path) (packageName sub : List Char) (hasSuffix : Bool) :
    r.look.Runs (f.fromOtherModules modules packageName sub hasSuffix) := by
  refine gives_cond (gives_lift (hf.isDir _)) ?_ (runs_pure _)
  refine r.look.gives_bind (hf.package _) fun description _ => ?_
  split
  · exact r.look.gives_bind (Target.runs_exported _ _ _ _) fun p _ => runs_pure _
  · exact r.look.gives_bind (gives_parsed (fun path _ => gives_relative hf _ path) _)
      fun p _ => runs_pure _

theorem runs_fromOther (dir : Path) (hasSuffix : Bool) (name : String) :
    r.look.Runs (f.fromOther dir hasSuffix name) := by
  unfold fromOther
  generalize Source.splitPackage name.toList = parts
  obtain ⟨packageName, sub⟩ := parts
  refine r.look.gives_bind (P := fun _ => True)
    (gives_found (Rules.finds_firstOf (fun outlook => ?_) _)) fun p _ => runs_pure _
  have hdirectory := Rules.finds_of_runs (runs_moduleDirectory hf outlook.2 outlook.1)
  refine gives_cases (gives_lift hdirectory) finds_none fun modules _ => ?_
  exact Rules.finds_of_runs (runs_fromOtherModules hf modules packageName sub hasSuffix)

theorem finds_fromImports (dir : Path) (name : List Char) (hasSuffix : Bool) :
    r.look.Finds (f.fromImports dir name hasSuffix) fun q => fs.isFile q = true := by
  refine r.look.gives_bind (hf.nearest dir) fun package _ => ?_
  split
  · exact finds_none
  · rename_i package keys _
    refine gives_ite (gives_throw_bind _ _) ?_
    refine r.look.gives_bind (gives_lift (hf.real package.dir)) fun own _ => ?_
    have hother : Target.Asks r (some (f.fromOther own hasSuffix)) := by
      intro ask hask other
      cases hask
      exact runs_fromOther hf own hasSuffix other
    have hlookup := Rules.finds_of_runs (Target.runs_lookup hother own name keys)
    refine gives_cases hlookup (gives_throw _) fun p _ => ?_
    exact r.look.gives_bind (gives_found (finds_asFileOrDirectory hf p [])) fun _ h => finds_some h

/-! ## Sources -/

theorem gives_named (dir : Path) (name : List Char) (hasSuffix : Bool) :
    r.look.Gives (f.named dir name hasSuffix) fun q => fs.isFile q = true := by
  have hbare := gives_bare hf dir name hasSuffix
  unfold named
  simp only
  split
  · exact gives_found (finds_asFileOrDirectory hf _ name)
  · exact gives_relative hf dir name
  · exact gives_relative hf dir name
  · split
    · exact gives_cases (finds_fromImports hf dir name hasSuffix) hbare fun _ h => r.look.gives_pure h
    · exact gives_cases finds_none hbare fun _ h => r.look.gives_pure h

theorem gives_locate (source : String) (dir : Path) :
    r.look.Gives (f.locate source dir) fun p =>
      ∃ q, fs.isFile q = true ∧ p = realPath fs q := by
  refine r.look.gives_bind (gives_parsed (gives_named hf _) source) fun q hq => ?_
  refine r.look.gives_bind (hf.nearest q) fun _ _ => ?_
  exact gives_lift (r.gives_mono (hf.real q) fun p hp => ⟨q, hq, hp⟩)

/-- What a source is resolved to is where some file really is. -/
theorem gives_find (source : String) (dir : Path) :
    r.Gives (f.find source dir) fun result => ∀ p, result = .ok p →
      ∃ q, fs.isFile q = true ∧ p = realPath fs q := by
  refine r.gives_bind (gives_locate hf source dir) fun result hresult => ?_
  split
  · exact r.gives_pure nofun
  · exact r.gives_pure hresult

end Finder
end Resolve
end ImportMacros
